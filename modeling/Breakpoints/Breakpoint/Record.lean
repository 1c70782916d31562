import Breakpoints.Breakpoint.Basic

/-!
Records: what is kept of a breakpoint to set it up again later.  Conditions and monitors are kept
as their texts, the group as its path.
-/

namespace Breakpoints

structure Record where
  spec : Spec
  enabled : Bool
  skipCount : Nat
  expireCount : Nat
  deleteOnExpire : Bool
  policy : SuspendPolicy
  classFilters : Option String
  threadFilters : Option String
  groupPath : String
  conditions : List String
  monitors : List String
  properties : Table String Json

def Record.capture (bp : Breakpoint) (groupPath : String) : Record where
  spec := bp.spec
  enabled := bp.enabled
  skipCount := bp.skipCount
  expireCount := bp.expireCount
  deleteOnExpire := bp.deleteOnExpire
  policy := bp.policy
  classFilters := bp.classFilters.map (·.text)
  threadFilters := bp.threadFilters.map (·.text)
  groupPath
  conditions := bp.conditions.map (·.text)
  monitors := bp.monitors.map (·.text)
  properties := bp.properties

end Breakpoints
