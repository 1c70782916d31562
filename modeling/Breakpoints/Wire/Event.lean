import Breakpoints.Breakpoint.Hit
import Breakpoints.Wire.Place

/-!
JSON forms of snapshots, events and reports of hits.  An event is a record tagged with its type.
-/

namespace Breakpoints

open Text (maxWord maxLong)

namespace TargetState

def toJson (state : TargetState) : Json :=
  .obj [("thread", Json.opt .nat state.thread), ("thread_name", Json.opt .str state.threadName),
    ("location", Json.opt Location.toJson state.location),
    ("class_name", Json.opt .str state.className)]

def ofJson? (j : Json) : Option TargetState := do
  let f ← j.fields? ["thread", "thread_name", "location", "class_name"]
  let thread ← f.optional "thread" (Json.nat? maxLong)
  let threadName ← f.optional "thread_name" Json.str?
  let location ← f.optional "location" Location.ofJson?
  let className ← f.optional "class_name" Json.str?
  some { thread, threadName, location, className }

end TargetState

namespace TargetEvent

/-- The tag of the record. -/
def tag : TargetEvent → String
  | vmStart => "VmStart"
  | vmDeath => "VmDeath"
  | threadStart .. => "ThreadStart"
  | threadDeath .. => "ThreadDeath"
  | classPrepare _ => "ClassPrepare"
  | classUnload _ => "ClassUnload"
  | hit .. => "Hit"

/-- The members of the record besides its tag. -/
def members : TargetEvent → List (String × Json)
  | vmStart => []
  | vmDeath => []
  | threadStart thread name => [("thread", .nat thread), ("name", .str name)]
  | threadDeath thread name => [("thread", .nat thread), ("name", .str name)]
  | classPrepare loaded => [("class", loaded.toJson)]
  | classUnload className => [("class_name", .str className)]
  | hit request state => [("request_id", .int request), ("state", state.toJson)]

def toJson (event : TargetEvent) : Json :=
  .obj (("type", .str event.tag) :: event.members)

/-- The thread and the name of the content of a thread event. -/
def threadOf? (content : Json) : Option (Nat × String) := do
  let f ← content.fields? ["thread", "name"]
  let thread ← f.required "thread" (Json.nat? maxLong)
  let name ← f.required "name" Json.str?
  some (thread, name)

/-- The event of a given tag with the given content. -/
def ofContent? (content : Json) : String → Option TargetEvent
  | "VmStart" => (content.fields? []).map fun _ => vmStart
  | "VmDeath" => (content.fields? []).map fun _ => vmDeath
  | "ThreadStart" => (threadOf? content).map fun (thread, name) => threadStart thread name
  | "ThreadDeath" => (threadOf? content).map fun (thread, name) => threadDeath thread name
  | "ClassPrepare" => do
    let f ← content.fields? ["class"]
    (f.required "class" ClassHandle.ofJson?).map classPrepare
  | "ClassUnload" => do
    let f ← content.fields? ["class_name"]
    (f.required "class_name" Json.str?).map classUnload
  | "Hit" => do
    let f ← content.fields? ["request_id", "state"]
    let request ← f.required "request_id" Json.int32?
    let state ← f.required "state" TargetState.ofJson?
    some (hit request state)
  | _ => none

def ofJson? (j : Json) : Option TargetEvent := do
  let (tag, content) ← j.tagged? "type"
  ofContent? content tag

end TargetEvent

namespace Decision

def name : Decision → String
  | stop => "stop"
  | proceed => "continue"

def toJson (decision : Decision) : Json := .str decision.name

def ofJson? (j : Json) : Option Decision := do
  let name ← j.choice?
  [stop, proceed].find? fun decision => decision.name == name

end Decision

namespace HitReport

def toJson (report : HitReport) : Json :=
  .obj [("breakpoint", Json.opt .nat report.breakpoint), ("request_id", .int report.request),
    ("decision", report.decision.toJson), ("suspend_policy", report.policy.toJson),
    ("stop_count", .nat report.stopCount), ("expired", .bool report.expired),
    ("destroyed", .bool report.destroyed),
    ("condition_failures", .strings report.conditionFailures),
    ("monitor_failures", .strings report.monitorFailures)]

def ofJson? (j : Json) : Option HitReport := do
  let f ← j.fields? ["breakpoint", "request_id", "decision", "suspend_policy", "stop_count",
    "expired", "destroyed", "condition_failures", "monitor_failures"]
  let breakpoint ← f.optional "breakpoint" (Json.nat? maxWord)
  let request ← f.required "request_id" Json.int32?
  let decision ← f.required "decision" Decision.ofJson?
  let policy ← f.required "suspend_policy" SuspendPolicy.ofJson?
  let stopCount ← f.required "stop_count" (Json.nat? maxWord)
  let expired ← f.required "expired" Json.bool?
  let destroyed ← f.required "destroyed" Json.bool?
  let conditionFailures ← f.required "condition_failures" (Json.list? Json.str?)
  let monitorFailures ← f.required "monitor_failures" (Json.list? Json.str?)
  some ⟨breakpoint, request, decision, policy, stopCount, expired, destroyed, conditionFailures,
    monitorFailures⟩

end HitReport

end Breakpoints
