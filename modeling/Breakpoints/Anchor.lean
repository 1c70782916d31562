import Breakpoints.Place

/-!
What a breakpoint binds to in the target.
-/

namespace Breakpoints

/-- The part of the target that a specification was found to mean.  Class, thread and trace
breakpoints bind to their filters only. -/
inductive Anchor where
  | location (owner : Option ClassHandle) (place : Location)
  | method (owner : ClassHandle) (member : MethodInfo)
  | field (owner : ClassHandle) (member : FieldHandle)
  | exception (thrown : Option ClassHandle)
  | filter
deriving DecidableEq, Repr

/-- The class whose unloading ends the binding. -/
def Anchor.className? : Anchor → Option String
  | location owner _ => owner.map (·.name)
  | method owner _ => some owner.name
  | field owner _ => some owner.name
  | exception thrown => thrown.map (·.name)
  | filter => none

/-- A request armed in the target for a breakpoint.  It is stale once the breakpoint's filters or
policy are no longer those it was armed with. -/
structure Binding where
  request : Int
  anchor : Anchor
  stale : Bool
deriving DecidableEq, Repr

end Breakpoints
