import Breakpoints.Breakpoint.Hit
import Breakpoints.Registry.Binding

/-!
Hits: the request of a hit leads to its breakpoint, which decides.
-/

namespace Breakpoints.Registry

variable {τ : Type} [Target τ]

/-- Decides the hit of a request.  A request without a live breakpoint is let pass.  A breakpoint
that expires is destroyed if it asks for that, and has its request disarmed otherwise. -/
def onHit (m : Registry τ) (request : Int) (state : TargetState) :
    HitReport × List Call × Registry τ :=
  match m.requests.find? request with
  | none => (.unrouted request, [], m)
  | some id =>
    match m.find? id with
    | none => (.unrouted request, [], m)
    | some bp =>
      let (outcome, bp) := bp.evaluate (m.groups.chainEnabled bp.group) state
      let destroyed := outcome.expiredNow && bp.deleteOnExpire
      let report : HitReport :=
        { breakpoint := some id
          request
          decision := outcome.decision
          policy := bp.policy
          stopCount := bp.stopCount
          expired := bp.expired
          destroyed
          conditionFailures := outcome.conditionFailures.map (·.message)
          monitorFailures := outcome.monitorFailures.map (·.message) }
      let m := m.store bp id
      let m :=
        if destroyed then (m.destroy id).2
        else if outcome.expiredNow then
          { m with target := (Target.setArmed m.target request false).2 }
        else m
      (report, outcome.calls, m)

end Breakpoints.Registry
