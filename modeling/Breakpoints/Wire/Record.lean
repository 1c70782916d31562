import Breakpoints.Breakpoint.Record
import Breakpoints.Wire.Spec

/-!
JSON forms of records, bindings and stages of life.
-/

namespace Breakpoints

open Text (maxWord)

namespace Record

def fieldNames : List String :=
  ["spec", "enabled", "skip_count", "expire_count", "delete_on_expire", "suspend_policy",
    "class_filters", "thread_filters", "group_path", "conditions", "monitors", "properties"]

/-- The form of a record.  Absent filters and an empty set of properties are left out. -/
def toJson (record : Record) : Json :=
  let text (name : String) : Option String → List (String × Json)
    | none => []
    | some s => [(name, .str s)]
  let properties :=
    if record.properties.entries.isEmpty then []
    else [("properties", Json.obj record.properties.entries)]
  .obj ([("spec", record.spec.toJson), ("enabled", .bool record.enabled),
      ("skip_count", .nat record.skipCount), ("expire_count", .nat record.expireCount),
      ("delete_on_expire", .bool record.deleteOnExpire),
      ("suspend_policy", record.policy.toJson)] ++
    text "class_filters" record.classFilters ++ text "thread_filters" record.threadFilters ++
    [("group_path", .str record.groupPath), ("conditions", .strings record.conditions),
      ("monitors", .strings record.monitors)] ++ properties)

/-- The properties of a record. -/
def properties? : Json → Option (Table String Json)
  | .obj members => some (.ofList members)
  | _ => none

/-- Reads a record; an array holds at least the fields up to the group path. -/
def ofJson? (j : Json) : Option Record := do
  let f ← j.fieldsFrom? 9 fieldNames
  let spec ← f.required "spec" Spec.ofJson?
  let enabled ← f.required "enabled" Json.bool?
  let skipCount ← f.orElse "skip_count" (Json.nat? maxWord) 0
  let expireCount ← f.orElse "expire_count" (Json.nat? maxWord) 0
  let deleteOnExpire ← f.orElse "delete_on_expire" Json.bool? false
  let policy ← f.orElse "suspend_policy" SuspendPolicy.ofJson? .all
  let classFilters ← f.optional "class_filters" Json.str?
  let threadFilters ← f.optional "thread_filters" Json.str?
  let groupPath ← f.required "group_path" Json.str?
  let conditions ← f.orElse "conditions" (Json.list? Json.str?) []
  let monitors ← f.orElse "monitors" (Json.list? Json.str?) []
  let properties ← f.orElse "properties" properties? ∅
  some ⟨spec, enabled, skipCount, expireCount, deleteOnExpire, policy, classFilters,
    threadFilters, groupPath, conditions, monitors, properties⟩

end Record

namespace Anchor

/-- The form of an anchor, a record tagged with its type. -/
def toJson : Anchor → Json
  | location owner place =>
    .obj [("type", .str "location"), ("class", Json.opt ClassHandle.toJson owner),
      ("location", place.toJson)]
  | method owner member =>
    .obj [("type", .str "method"), ("class", owner.toJson), ("method", member.toJson)]
  | field owner member =>
    .obj [("type", .str "field"), ("class", owner.toJson), ("field", member.toJson)]
  | exception thrown =>
    .obj [("type", .str "exception"), ("class", Json.opt ClassHandle.toJson thrown)]
  | filter => .obj [("type", .str "filter")]

end Anchor

namespace Lifecycle

def name : Lifecycle → String
  | unresolved => "unresolved"
  | resolvedEnabled => "resolved_enabled"
  | resolvedDisabled => "resolved_disabled"
  | expired => "expired"
  | destroyed => "destroyed"

def toJson (stage : Lifecycle) : Json := .str stage.name

end Lifecycle

end Breakpoints
