import Breakpoints.Json.Basic
import Breakpoints.Place
import Breakpoints.SuspendPolicy
import Breakpoints.Text.Numeral

/-!
JSON forms of code places and suspend policies.
-/

namespace Breakpoints

open Text (maxWord maxLong)

namespace Location

def toJson (l : Location) : Json :=
  .obj [("type_tag", .nat l.typeTag), ("class_id", .nat l.classId), ("method_id", .nat l.methodId),
    ("index", .nat l.index)]

def ofJson? (j : Json) : Option Location := do
  let f ← j.fields? ["type_tag", "class_id", "method_id", "index"]
  let typeTag ← f.required "type_tag" (Json.nat? 255)
  let classId ← f.required "class_id" (Json.nat? maxLong)
  let methodId ← f.required "method_id" (Json.nat? maxLong)
  let index ← f.required "index" (Json.nat? maxLong)
  some { typeTag, classId, methodId, index }

end Location

namespace ClassHandle

def toJson (c : ClassHandle) : Json :=
  .obj [("type_id", .nat c.typeId), ("name", .str c.name)]

def ofJson? (j : Json) : Option ClassHandle := do
  let f ← j.fields? ["type_id", "name"]
  let typeId ← f.required "type_id" (Json.nat? maxLong)
  let name ← f.required "name" Json.str?
  some { typeId, name }

end ClassHandle

namespace MethodInfo

def toJson (m : MethodInfo) : Json :=
  .obj [("method_id", .nat m.methodId), ("name", .str m.name),
    ("parameter_types", .strings m.parameterTypes), ("location", m.location.toJson)]

def ofJson? (j : Json) : Option MethodInfo := do
  let f ← j.fields? ["method_id", "name", "parameter_types", "location"]
  let methodId ← f.required "method_id" (Json.nat? maxLong)
  let name ← f.required "name" Json.str?
  let parameterTypes ← f.required "parameter_types" (Json.list? Json.str?)
  let location ← f.required "location" Location.ofJson?
  some { methodId, name, parameterTypes, location }

end MethodInfo

namespace FieldHandle

def toJson (x : FieldHandle) : Json :=
  .obj [("field_id", .nat x.fieldId), ("name", .str x.name)]

end FieldHandle

namespace CurrentLocation

def toJson (here : CurrentLocation) : Json :=
  .obj [("source_path", .str here.sourcePath), ("line", .nat here.line),
    ("class_name", .str here.className)]

def ofJson? (j : Json) : Option CurrentLocation := do
  let f ← j.fields? ["source_path", "line", "class_name"]
  let sourcePath ← f.required "source_path" Json.str?
  let line ← f.required "line" (Json.nat? maxWord)
  let className ← f.required "class_name" Json.str?
  some { sourcePath, line, className }

end CurrentLocation

namespace SuspendPolicy

def name : SuspendPolicy → String
  | nothing => "none"
  | eventThread => "event_thread"
  | all => "all"

def toJson (policy : SuspendPolicy) : Json := .str policy.name

def ofJson? (j : Json) : Option SuspendPolicy := do
  let name ← j.choice?
  [nothing, eventThread, all].find? fun policy => policy.name == name

end SuspendPolicy

end Breakpoints
