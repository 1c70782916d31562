import Breakpoints.Json.Reader
import Breakpoints.Settings
import Breakpoints.Wire.Place

/-!
JSON form of the settings, and the reading of a settings text.
-/

namespace Breakpoints.Settings

open Text (maxLong)

def fieldNames : List String :=
  ["default_enabled", "default_suspend_policy", "resolve_on_create", "report_buffer",
    "event_buffer"]

def toJson (s : Settings) : Json :=
  .obj [("default_enabled", .bool s.enabled), ("default_suspend_policy", s.policy.toJson),
    ("resolve_on_create", .bool s.resolveOnCreate), ("report_buffer", .nat s.reportBuffer),
    ("event_buffer", .nat s.eventBuffer)]

/-- Settings from a value; what is missing has its standard value. -/
def ofJson? (j : Json) : Option Settings := do
  let f ← j.fieldsFrom? 0 fieldNames
  let enabled ← f.orElse "default_enabled" Json.bool? standard.enabled
  let policy ← f.orElse "default_suspend_policy" SuspendPolicy.ofJson? standard.policy
  let resolveOnCreate ← f.orElse "resolve_on_create" Json.bool? standard.resolveOnCreate
  let reportBuffer ← f.orElse "report_buffer" (Json.nat? maxLong) standard.reportBuffer
  let eventBuffer ← f.orElse "event_buffer" (Json.nat? maxLong) standard.eventBuffer
  some { enabled, policy, resolveOnCreate, reportBuffer, eventBuffer }

/-- Whether no setting is given twice. -/
def givenOnce : Json → Bool
  | .obj members => fieldNames.all fun name => (members.filter (·.1 == name)).length ≤ 1
  | _ => true

/-- Reads and checks a settings text. -/
def read (text : String) : Except Failure Settings :=
  match (Json.read? text).bind fun j => if givenOnce j then ofJson? j else none with
  | none => .error (.settings .malformed)
  | some s => s.check.map fun _ => s

end Breakpoints.Settings
