import Breakpoints.Place

/-!
What the target reports: a snapshot of where it stopped, and events.
-/

namespace Breakpoints

/-- Where the target stopped, as far as it is known. -/
structure TargetState where
  thread : Option Nat
  threadName : Option String
  location : Option Location
  className : Option String
deriving DecidableEq, Repr

/-- A snapshot of which nothing is known. -/
def TargetState.unknown : TargetState :=
  ⟨none, none, none, none⟩

instance : Inhabited TargetState := ⟨.unknown⟩

inductive TargetEvent where
  | vmStart
  | vmDeath
  | threadStart (thread : Nat) (name : String)
  | threadDeath (thread : Nat) (name : String)
  | classPrepare (loaded : ClassHandle)
  | classUnload (className : String)
  | hit (request : Int) (state : TargetState)
deriving DecidableEq, Repr

def TargetEvent.name : TargetEvent → String
  | vmStart => "VMStart"
  | vmDeath => "VMDeath"
  | threadStart .. => "ThreadStart"
  | threadDeath .. => "ThreadDeath"
  | classPrepare _ => "ClassPrepare"
  | classUnload _ => "ClassUnload"
  | hit .. => "Hit"

end Breakpoints
