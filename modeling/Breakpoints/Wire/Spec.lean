import Breakpoints.Name.Pattern
import Breakpoints.Spec.Basic
import Breakpoints.Wire.Place

/-!
JSON forms of filters and specifications.  A specification is a record tagged with its kind.
-/

namespace Breakpoints

open Text (maxWord)

namespace Kind

def toJson (kind : Kind) : Json := .str kind.name

def ofJson? (j : Json) : Option Kind := j.choice?.bind ofName?

end Kind

namespace NamePattern

def toJson : NamePattern → Json
  | any => .str "Any"
  | exact name => .obj [("Exact", .str name)]
  | startsWith head => .obj [("Prefix", .str head)]
  | endsWith tail => .obj [("Suffix", .str tail)]

end NamePattern

namespace FilterList

def toJson (filters : FilterList) : Json :=
  .obj [("patterns", .arr (filters.patterns.map (·.toJson)))]

end FilterList

namespace ParameterFilter

def toJson : ParameterFilter → Json
  | any => .str "any"
  | exact types => .obj [("exact", .strings types)]

def ofJson? : Json → Option ParameterFilter
  | .str "any" => some any
  | .obj [("any", .null)] => some any
  | .obj [("exact", types)] => (types.list? Json.str?).map exact
  | _ => none

/-- The form inside a tagged record, where `any` may also stand over an empty object. -/
def ofTaggedJson? : Json → Option ParameterFilter
  | .obj [("any", .obj [])] => some any
  | j => ofJson? j

end ParameterFilter

namespace SourceKey

def toJson (key : SourceKey) : Json := .str key.url

def ofJson? (j : Json) : Option SourceKey := do
  let text ← j.str?
  (ofText text).toOption

end SourceKey

namespace LineSpec

def fieldNames : List String :=
  ["url", "package", "class_pattern", "source_name", "line"]

def members (spec : LineSpec) : List (String × Json) :=
  [("url", spec.key.toJson), ("package", Json.opt .str spec.package),
    ("class_pattern", .str spec.classPattern), ("source_name", .str spec.sourceName),
    ("line", .nat spec.line)]

def ofJson? (j : Json) : Option LineSpec := do
  let f ← j.fields? fieldNames
  let key ← f.required "url" SourceKey.ofJson?
  let package ← f.optional "package" Json.str?
  let classPattern ← f.required "class_pattern" Json.str?
  let sourceName ← f.required "source_name" Json.str?
  let line ← f.required "line" (Json.nat? maxWord)
  some { key, package, classPattern, sourceName, line }

end LineSpec

namespace MethodSpec

def members (spec : MethodSpec) : List (String × Json) :=
  [("class_name", .str spec.className), ("method_name", .str spec.methodName),
    ("parameters", spec.parameters.toJson)]

def ofJson? (j : Json) : Option MethodSpec := do
  let f ← j.fields? ["class_name", "method_name", "parameters"]
  let className ← f.required "class_name" Json.str?
  let methodName ← f.required "method_name" Json.str?
  let parameters ← f.required "parameters" ParameterFilter.ofTaggedJson?
  some { className, methodName, parameters }

end MethodSpec

namespace Spec

/-- The members of the record besides its tag. -/
def members : Spec → List (String × Json)
  | line spec => spec.members
  | method spec => spec.members
  | classPattern filter onPrepare onUnload =>
    [("filter", .str filter), ("stop_on_prepare", .bool onPrepare),
      ("stop_on_unload", .bool onUnload)]
  | threadLifecycle filter onStart onDeath =>
    [("filter", Json.opt .str filter), ("stop_on_start", .bool onStart),
      ("stop_on_death", .bool onDeath)]
  | fieldWatch className fieldName onAccess onModify =>
    [("class_name", .str className), ("field_name", .str fieldName), ("on_access", .bool onAccess),
      ("on_modify", .bool onModify)]
  | exceptionCatch className caught uncaught =>
    [("class_name", .str className), ("caught", .bool caught), ("uncaught", .bool uncaught)]
  | uncaughtException => []
  | trace classFilter threadFilter onEnter onExit =>
    [("class_filter", Json.opt .str classFilter), ("thread_filter", Json.opt .str threadFilter),
      ("on_enter", .bool onEnter), ("on_exit", .bool onExit)]
  | explicitLocation location => [("location", location.toJson)]

def toJson (spec : Spec) : Json :=
  .obj (("kind", spec.kind.toJson) :: spec.members)

/-- The specification of a given kind with the given content. -/
def ofContent? (content : Json) : Kind → Option Spec
  | .line => (LineSpec.ofJson? content).map line
  | .method => (MethodSpec.ofJson? content).map method
  | .classPattern => do
    let f ← content.fields? ["filter", "stop_on_prepare", "stop_on_unload"]
    let filter ← f.required "filter" Json.str?
    let onPrepare ← f.required "stop_on_prepare" Json.bool?
    let onUnload ← f.required "stop_on_unload" Json.bool?
    some (classPattern filter onPrepare onUnload)
  | .threadLifecycle => do
    let f ← content.fields? ["filter", "stop_on_start", "stop_on_death"]
    let filter ← f.optional "filter" Json.str?
    let onStart ← f.required "stop_on_start" Json.bool?
    let onDeath ← f.required "stop_on_death" Json.bool?
    some (threadLifecycle filter onStart onDeath)
  | .fieldWatch => do
    let f ← content.fields? ["class_name", "field_name", "on_access", "on_modify"]
    let className ← f.required "class_name" Json.str?
    let fieldName ← f.required "field_name" Json.str?
    let onAccess ← f.required "on_access" Json.bool?
    let onModify ← f.required "on_modify" Json.bool?
    some (fieldWatch className fieldName onAccess onModify)
  | .exceptionCatch => do
    let f ← content.fields? ["class_name", "caught", "uncaught"]
    let className ← f.required "class_name" Json.str?
    let caught ← f.required "caught" Json.bool?
    let uncaught ← f.required "uncaught" Json.bool?
    some (exceptionCatch className caught uncaught)
  | .uncaughtException => (content.fields? []).map fun _ => uncaughtException
  | .trace => do
    let f ← content.fields? ["class_filter", "thread_filter", "on_enter", "on_exit"]
    let classFilter ← f.optional "class_filter" Json.str?
    let threadFilter ← f.optional "thread_filter" Json.str?
    let onEnter ← f.required "on_enter" Json.bool?
    let onExit ← f.required "on_exit" Json.bool?
    some (trace classFilter threadFilter onEnter onExit)
  | .explicitLocation => do
    let f ← content.fields? ["location"]
    (f.required "location" Location.ofJson?).map explicitLocation

def ofJson? (j : Json) : Option Spec := do
  let (tag, content) ← j.tagged? "kind"
  let kind ← Kind.ofName? tag
  ofContent? content kind

end Spec

end Breakpoints
