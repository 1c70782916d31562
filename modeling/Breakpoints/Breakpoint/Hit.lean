import Breakpoints.Breakpoint.Basic

/-!
The decision on one hit.  A skipped or vetoed hit counts; a hit on a breakpoint that is not in
force does not.  Only a condition that is false vetoes: one that fails is reported and passes.
-/

namespace Breakpoints

inductive Decision where
  | stop
  | proceed
deriving DecidableEq, Repr

/-- The decision, whether the breakpoint expired with this hit, what failed, and every check and
run in order. -/
structure HitOutcome where
  decision : Decision
  expiredNow : Bool
  conditionFailures : List ConditionFailure
  monitorFailures : List MonitorFailure
  calls : List Call
deriving DecidableEq, Repr

/-- What is reported for one hit.  Without a breakpoint the request belongs to none. -/
structure HitReport where
  breakpoint : Option Nat
  request : Int
  decision : Decision
  policy : SuspendPolicy
  stopCount : Nat
  expired : Bool
  destroyed : Bool
  conditionFailures : List String
  monitorFailures : List String
deriving DecidableEq, Repr

/-- The report for a request that belongs to no breakpoint. -/
def HitReport.unrouted (request : Int) : HitReport where
  breakpoint := none
  request
  decision := .proceed
  policy := .nothing
  stopCount := 0
  expired := false
  destroyed := false
  conditionFailures := []
  monitorFailures := []

theorem HitReport.eq_unrouted_iff {report : HitReport} {request : Int} :
    report = .unrouted request ↔
      report.breakpoint = none ∧ report.request = request ∧ report.decision = .proceed ∧
        report.policy = .nothing ∧ report.stopCount = 0 ∧ report.expired = false ∧
        report.destroyed = false ∧ report.conditionFailures = [] ∧ report.monitorFailures = [] := by
  cases report
  simp [unrouted]

/-- The outcome of a hit that passes without any check. -/
def HitOutcome.passed : HitOutcome :=
  ⟨.proceed, false, [], [], []⟩

theorem HitOutcome.eq_passed_iff {outcome : HitOutcome} :
    outcome = .passed ↔
      outcome.decision = .proceed ∧ outcome.expiredNow = false ∧ outcome.conditionFailures = [] ∧
        outcome.monitorFailures = [] ∧ outcome.calls = [] := by
  cases outcome
  simp [passed]

/-- Counters stay at their largest value once they reach it. -/
def saturated (n : Nat) : Nat :=
  min n Text.maxWord

/-- Counters have 32 bits. -/
theorem saturated_eq (n : Nat) : saturated n = min n 0xFFFFFFFF :=
  rfl

/-- What the checks of a row of conditions amount to. -/
structure Verdict where
  vetoed : Bool
  failures : List ConditionFailure
  calls : List Call
deriving DecidableEq, Repr

/-- Checks conditions in order up to the first that is false. -/
def checkConditions (state : TargetState) : List Condition → Verdict
  | [] => ⟨false, [], []⟩
  | condition :: rest =>
    match condition.check state with
    | .ok false => ⟨true, [], [.checked condition.text]⟩
    | .ok true =>
      let later := checkConditions state rest
      { later with calls := .checked condition.text :: later.calls }
    | .error failure =>
      let later := checkConditions state rest
      { later with
        failures := failure :: later.failures
        calls := .checked condition.text :: later.calls }

/-- The failure of one monitor, if it fails. -/
def Monitor.failure? (state : TargetState) (monitor : Monitor) : Option MonitorFailure :=
  match monitor.run state with
  | .ok () => none
  | .error failure => some failure

theorem Monitor.failure?_eq_some_iff {state : TargetState} {monitor : Monitor}
    {failure : MonitorFailure} :
    monitor.failure? state = some failure ↔ monitor.run state = .error failure := by
  rw [failure?]
  cases monitor.run state with
  | ok _ => simp
  | error _ => simp

namespace Breakpoint

/-- Whether a hit is counted at all, given that of the group chain. -/
def inForce (bp : Breakpoint) (chainEnabled : Bool) : Bool :=
  !bp.destroyed && !bp.expired && bp.enabled && chainEnabled

/-- Whether a hit with this count is the last before expiry. -/
def expiresAt (bp : Breakpoint) (count : Nat) : Bool :=
  0 < bp.expireCount && saturated (bp.skipCount + bp.expireCount) ≤ count

/-- Decides one hit; `chainEnabled` tells whether the group and all above it are enabled. -/
def evaluate (bp : Breakpoint) (chainEnabled : Bool) (state : TargetState) :
    HitOutcome × Breakpoint :=
  if !bp.inForce chainEnabled then (.passed, bp)
  else
    let count := saturated (bp.stopCount + 1)
    let counted := { bp with stopCount := count }
    if 0 < bp.skipCount && count ≤ bp.skipCount then (.passed, counted)
    else
      let verdict := checkConditions state bp.conditions
      if verdict.vetoed then
        (⟨.proceed, false, verdict.failures, [], verdict.calls⟩, counted)
      else
        let expires := bp.expiresAt count
        (⟨.stop, expires, verdict.failures, bp.monitors.filterMap (·.failure? state),
            verdict.calls ++ bp.monitors.map fun monitor => .ran monitor.text⟩,
          { counted with expired := expires })

end Breakpoint

end Breakpoints
