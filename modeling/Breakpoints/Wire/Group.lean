import Breakpoints.GroupTree
import Breakpoints.Json.Basic
import Breakpoints.Text.Numeral
import Breakpoints.ThreadGroup.Basic

/-!
JSON forms of breakpoint groups and thread groups.
-/

namespace Breakpoints

open Text (maxLong)

/-- The form of a group with its id. -/
def Group.toJson (id : Nat) (g : Group) : Json :=
  .obj [("id", .nat id), ("name", .str g.name), ("enabled", .bool g.enabled),
    ("parent", Json.opt .nat g.parent), ("children", .nats g.children),
    ("members", .nats g.members.toList)]

/-- All groups, in the order of their ids. -/
def GroupTree.toJson (t : GroupTree) : Json :=
  .arr (t.groups.entries.map fun e => e.2.toJson e.1)

namespace ThreadEntry

def toJson (thread : ThreadEntry) : Json :=
  .obj [("id", .nat thread.id), ("name", .str thread.name)]

def ofJson? (j : Json) : Option ThreadEntry := do
  let f ← j.fields? ["id", "name"]
  let id ← f.required "id" (Json.nat? maxLong)
  let name ← f.required "name" Json.str?
  some { id, name }

end ThreadEntry

namespace Json

mutual

/-- How deep arrays and objects are nested in a value. -/
def depth : Json → Nat
  | .arr items => depthItems items + 1
  | .obj members => depthMembers members + 1
  | _ => 0

def depthItems : List Json → Nat
  | [] => 0
  | item :: items => max (depth item) (depthItems items)

def depthMembers : List (String × Json) → Nat
  | [] => 0
  | (_, value) :: members => max (depth value) (depthMembers members)

end

end Json

namespace ThreadGroup

mutual

def toJson : ThreadGroup → Json
  | ⟨id, name, className, groups, threads⟩ =>
    .obj [("id", .nat id), ("name", .str name), ("class_name", Json.opt .str className),
      ("groups", .arr (toJsonList groups)), ("threads", .arr (threads.map (·.toJson)))]

def toJsonList : List ThreadGroup → List Json
  | [] => []
  | group :: groups => toJson group :: toJsonList groups

end

/-- Reads a group whose nesting is less than `fuel`. -/
def ofJsonFrom? : Nat → Json → Option ThreadGroup
  | 0, _ => none
  | fuel + 1, j => do
    let f ← j.fields? ["id", "name", "class_name", "groups", "threads"]
    let id ← f.required "id" (Json.nat? maxLong)
    let name ← f.required "name" Json.str?
    let className ← f.optional "class_name" Json.str?
    let groups ← f.required "groups" (Json.list? (ofJsonFrom? fuel))
    let threads ← f.required "threads" (Json.list? ThreadEntry.ofJson?)
    some { id, name, className, groups, threads }

/-- Reads a group.  Each level of groups is a level of the value, so its depth is fuel enough. -/
def ofJson? (j : Json) : Option ThreadGroup :=
  ofJsonFrom? (j.depth + 1) j

end ThreadGroup

end Breakpoints
