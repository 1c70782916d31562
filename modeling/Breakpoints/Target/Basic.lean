import Breakpoints.Anchor
import Breakpoints.Breakpoint.Basic
import Breakpoints.ThreadGroup.Basic

/-!
What is needed of the debugged target.  Looking up something that is not loaded finds nothing and
is no failure; only requests can fail.
-/

namespace Breakpoints

/-- A request to be armed in the target. -/
structure RequestSpec where
  kind : Kind
  anchor : Anchor
  policy : SuspendPolicy
  classFilters : Option FilterList
  threadFilters : Option FilterList
  enabled : Bool
deriving DecidableEq, Repr

/-- A target with states `τ`.  An operation on requests gives the state after it also when it
fails. -/
class Target (τ : Type) where
  /-- The place of the current thread, if the target is stopped. -/
  currentLocation : τ → Option CurrentLocation
  /-- The loaded class with a dotted name. -/
  classNamed? : τ → String → Option ClassHandle
  /-- The loaded classes that come from files with a name, each with its source path. -/
  classesFrom : τ → String → List (ClassHandle × String)
  /-- The first code of a line of a class. -/
  codeAt? : τ → ClassHandle → Nat → Option Location
  methods : τ → ClassHandle → List MethodInfo
  field? : τ → ClassHandle → String → Option FieldHandle
  threadGroups : τ → List ThreadGroup
  /-- Arms a request and gives its id. -/
  arm : τ → RequestSpec → Except TargetFailure Int × τ
  setArmed : τ → Int → Bool → Except TargetFailure Unit × τ
  clear : τ → Int → Except TargetFailure Unit × τ

/-- The request for a breakpoint that binds to `anchor`.  An expired breakpoint asks for no
hits. -/
def Breakpoint.requestFor (bp : Breakpoint) (anchor : Anchor) : RequestSpec where
  kind := bp.kind
  anchor
  policy := bp.policy
  classFilters := bp.classFilters
  threadFilters := bp.threadFilters
  enabled := bp.enabled && !bp.expired

end Breakpoints
