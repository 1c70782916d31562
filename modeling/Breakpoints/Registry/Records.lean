import Breakpoints.Breakpoint.Record
import Breakpoints.Registry.Binding

/-!
Saving breakpoints as records and setting them up again.
-/

namespace Breakpoints

/-- Configures a new breakpoint as a record says.  It is disabled meanwhile, so that policy and
filters may be set. -/
def Record.configure (record : Record) (conditions : List Condition) (monitors : List Monitor)
    (bp : Breakpoint) : Except Failure Breakpoint :=
  match { bp with enabled := false }.setPolicy record.policy with
  | .error e => .error e
  | .ok bp =>
    match bp.setClassFilters record.classFilters with
    | .error e => .error e
    | .ok bp =>
      match bp.setThreadFilters record.threadFilters with
      | .error e => .error e
      | .ok bp => .ok
        { bp with
          skipCount := record.skipCount
          expireCount := record.expireCount
          deleteOnExpire := record.deleteOnExpire
          conditions := bp.conditions ++ conditions
          monitors := bp.monitors ++ monitors
          properties :=
            record.properties.entries.foldl (fun t e => t.insert e.1 e.2) bp.properties
          enabled := record.enabled }

namespace Registry

variable {τ : Type}

/-- The records of all breakpoints, in the order of their creation. -/
def records (m : Registry τ) : List Record :=
  (m.breakpoints.values.filter (!·.destroyed)).map fun bp =>
    .capture bp ((m.groups.path bp.group).getD "")

/-- Sets up a breakpoint from a record.  The groups on its path are created where they are
missing, and stay also when a later step fails. -/
def restore [Target τ] (m : Registry τ) (record : Record) : Except Failure Nat × Registry τ :=
  match record.conditions.mapM m.kit.makeCondition with
  | .error e => (.error e, m)
  | .ok conditions =>
    match record.monitors.mapM m.kit.makeMonitor with
    | .error e => (.error e, m)
    | .ok monitors =>
      match m.groups.ensurePath record.groupPath with
      | .error e => (.error e, m)
      | .ok (group, groups) =>
        match { m with groups }.insert record.spec group
            (record.configure conditions monitors) with
        | (.error e, m) => (.error e, m)
        | (.ok id, m) => m.resolveNew id

end Registry

end Breakpoints
