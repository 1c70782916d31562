import Breakpoints.Proofs.Breakpoint.Evaluation
import Mathlib.Data.List.Induction

/-!
Rows of hits on one breakpoint.  One counter serves skipping, vetoed hits and expiry; it stays at
its largest value once it is there, and so do the sums that it is compared with.
-/

namespace Breakpoints

/-- Whether one of the hits was the last before expiry. -/
def expiredIn (outcomes : List HitOutcome) : Bool :=
  outcomes.any (·.expiredNow)

theorem expiredIn_concat (outcomes : List HitOutcome) (outcome : HitOutcome) :
    expiredIn (outcomes ++ [outcome]) = (expiredIn outcomes || outcome.expiredNow) := by
  simp [expiredIn]

/-- How many hits stopped. -/
def stops (outcomes : List HitOutcome) : Nat :=
  outcomes.countP fun outcome => outcome.decision = .stop

theorem stops_concat (outcomes : List HitOutcome) (outcome : HitOutcome) :
    stops (outcomes ++ [outcome]) =
      stops outcomes + if outcome.decision = .stop then 1 else 0 := by
  simp [stops, List.countP_append, List.countP_singleton]

/-- How many hits the group chain let through. -/
def letThrough (calls : List (Bool × TargetState)) : Nat :=
  calls.countP (·.1)

theorem letThrough_concat (calls : List (Bool × TargetState)) (chainEnabled : Bool)
    (state : TargetState) :
    letThrough (calls ++ [(chainEnabled, state)]) =
      letThrough calls + if chainEnabled then 1 else 0 := by
  simp [letThrough, List.countP_append, List.countP_singleton]

theorem saturated_saturated_add_one (n : Nat) :
    saturated (saturated n + 1) = saturated (n + 1) := by
  simp only [saturated]
  omega

namespace Breakpoint

/-- Decides a row of hits.  Each comes with the flag of the group chain and the state of the
target. -/
def hits (bp : Breakpoint) : List (Bool × TargetState) → List HitOutcome × Breakpoint
  | [] => ([], bp)
  | (chainEnabled, state) :: calls =>
      let (outcome, next) := bp.evaluate chainEnabled state
      let (outcomes, last) := next.hits calls
      (outcome :: outcomes, last)

theorem hits_concat (bp : Breakpoint) (calls : List (Bool × TargetState)) (chainEnabled : Bool)
    (state : TargetState) :
    bp.hits (calls ++ [(chainEnabled, state)]) =
      ((bp.hits calls).1 ++ [((bp.hits calls).2.evaluate chainEnabled state).1],
        ((bp.hits calls).2.evaluate chainEnabled state).2) := by
  induction calls generalizing bp with
  | nil => rfl
  | cons call calls ih =>
      simp only [List.cons_append, hits, ih]

/-- A breakpoint whose own flag is on and that was not hit yet. -/
structure Ready (bp : Breakpoint) : Prop where
  enabled_eq : bp.enabled = true
  stopCount_eq : bp.stopCount = 0
  expired_eq : bp.expired = false
  destroyed_eq : bp.destroyed = false

namespace Ready

variable {bp : Breakpoint}

/-- Hits change the count and the expired flag only.  Until the breakpoint expires, the count is
the number of hits let through. -/
theorem hits_snd (hbp : bp.Ready) (calls : List (Bool × TargetState)) :
    ∃ stopCount, (bp.hits calls).2 =
        { bp with stopCount, expired := expiredIn (bp.hits calls).1 } ∧
      (expiredIn (bp.hits calls).1 = false → stopCount = saturated (letThrough calls)) := by
  induction calls using List.reverseRecOn with
  | nil =>
      refine ⟨0, ?_, fun _ => rfl⟩
      rw [hits, expiredIn, List.any_nil, ← hbp.stopCount_eq, ← hbp.expired_eq]
  | append_singleton calls call ih =>
      obtain ⟨chainEnabled, state⟩ := call
      obtain ⟨stopCount, hnow, hcount⟩ := ih
      rw [hits_concat, expiredIn_concat, letThrough_concat]
      cases hforce : (bp.hits calls).2.inForce chainEnabled with
      | false =>
          -- the hit is not counted: the breakpoint has expired, or the chain holds the hit back
          rw [evaluate_of_not_inForce hforce, HitOutcome.passed, Bool.or_false]
          refine ⟨stopCount, hnow, fun hlive => ?_⟩
          have hchain : chainEnabled = false := by
            simpa [inForce, hnow, hlive, hbp.enabled_eq, hbp.destroyed_eq] using hforce
          rw [hcount hlive, hchain]
          rfl
      | true =>
          obtain ⟨-, hexpired, -, rfl⟩ := inForce_eq_true_iff.mp hforce
          have hlive : expiredIn (bp.hits calls).1 = false := by
            rw [hnow] at hexpired
            exact hexpired
          refine ⟨saturated (stopCount + 1), ?_, fun _ => ?_⟩
          · rw [evaluate_snd_of_inForce hforce, hlive, Bool.false_or, hnow]
          · rw [hcount hlive, saturated_saturated_add_one, if_pos rfl]

/-- After a row of hits the next one counts, unless the breakpoint has expired. -/
theorem inForce_hits (hbp : bp.Ready) (calls : List (Bool × TargetState)) (chainEnabled : Bool) :
    (bp.hits calls).2.inForce chainEnabled =
      (!expiredIn (bp.hits calls).1 && chainEnabled) := by
  obtain ⟨stopCount, hnow, -⟩ := hbp.hits_snd calls
  rw [hnow]
  simp [inForce, hbp.enabled_eq, hbp.destroyed_eq]

/-- What the next hit does while the breakpoint lives: its number decides. -/
theorem evaluate_hits (hbp : bp.Ready) {calls : List (Bool × TargetState)}
    (hlive : expiredIn (bp.hits calls).1 = false) (state : TargetState) :
    let count := saturated (letThrough calls + 1)
    let outcome := ((bp.hits calls).2.evaluate true state).1
    (outcome.decision = .stop ↔ bp.skipCount < count ∧
      ∀ condition ∈ bp.conditions, condition.check state ≠ .ok false) ∧
    (outcome.expiredNow = true ↔ outcome.decision = .stop ∧ 0 < bp.expireCount ∧
      saturated (bp.skipCount + bp.expireCount) ≤ count) ∧
    ((bp.hits calls).2.evaluate true state).2.stopCount = count := by
  have hforce : (bp.hits calls).2.inForce true = true := by
    rw [hbp.inForce_hits, hlive]
    rfl
  have hdecision := decision_evaluate_iff hforce state
  have hexpires := expiredNow_evaluate_iff hforce state
  have hafter := evaluate_snd_of_inForce hforce state
  obtain ⟨stopCount, hnow, hcount⟩ := hbp.hits_snd calls
  have hskip : (bp.hits calls).2.skipCount = bp.skipCount := by rw [hnow]
  have hexpire : (bp.hits calls).2.expireCount = bp.expireCount := by rw [hnow]
  have hconditions : (bp.hits calls).2.conditions = bp.conditions := by rw [hnow]
  have hnumber : saturated ((bp.hits calls).2.stopCount + 1) =
      saturated (letThrough calls + 1) := by
    rw [hnow, hcount hlive, saturated_saturated_add_one]
  rw [hnumber, hskip, hconditions] at hdecision
  rw [hnumber, expiresAt, hskip, hexpire, Bool.and_eq_true, decide_eq_true_iff,
    decide_eq_true_iff] at hexpires
  exact ⟨hdecision, hexpires, by rw [hafter, hnumber]⟩

/-- A breakpoint stops no more often than its expire count says.  Before it expires, the stops are
among the hits past the skip count. -/
theorem stops_hits (hbp : bp.Ready) (hexpire : 0 < bp.expireCount)
    (calls : List (Bool × TargetState)) :
    stops (bp.hits calls).1 ≤ bp.expireCount ∧
      (expiredIn (bp.hits calls).1 = false → stops (bp.hits calls).1 < bp.expireCount ∧
        stops (bp.hits calls).1 ≤ saturated (letThrough calls) - bp.skipCount) := by
  induction calls using List.reverseRecOn with
  | nil => exact ⟨Nat.zero_le _, fun _ => ⟨hexpire, Nat.zero_le _⟩⟩
  | append_singleton calls call ih =>
      obtain ⟨chainEnabled, state⟩ := call
      obtain ⟨hle, hlt⟩ := ih
      have hinForce := hbp.inForce_hits calls chainEnabled
      rw [hits_concat, expiredIn_concat, stops_concat, letThrough_concat]
      cases hforce : (bp.hits calls).2.inForce chainEnabled with
      | false =>
          rw [evaluate_of_not_inForce hforce, HitOutcome.passed, Bool.or_false]
          refine ⟨hle, fun hlive => ?_⟩
          have hchain : chainEnabled = false := by simpa [hlive, hforce] using hinForce
          rw [hchain]
          exact hlt hlive
      | true =>
          rw [hforce, eq_comm, Bool.and_eq_true, Bool.not_eq_true'] at hinForce
          obtain ⟨hlive, rfl⟩ := hinForce
          obtain ⟨hdecision, hexpires, -⟩ := hbp.evaluate_hits hlive state
          obtain ⟨hfew, hpast⟩ := hlt hlive
          rw [if_pos rfl]
          split
          next hstop =>
            have hcount := (hdecision.mp hstop).1
            refine ⟨hfew, fun hnot => ?_⟩
            -- a stop before expiry has a count below the limit, so the counter is not full yet
            have hearly : ¬ saturated (bp.skipCount + bp.expireCount) ≤
                saturated (letThrough calls + 1) := by
              intro hlate
              rw [hexpires.mpr ⟨hstop, hexpire, hlate⟩, Bool.or_true] at hnot
              contradiction
            simp only [saturated] at hcount hearly hpast ⊢
            omega
          next =>
            refine ⟨hle, fun _ => ⟨hfew, ?_⟩⟩
            simp only [saturated] at hpast ⊢
            omega

end Ready

/-- The law of skipping and expiry, for a row of hits in any states and with the group chain on and
off.  While the breakpoint lives, the number of a hit among those let through decides: the hit stops
if it is past the skip count and no condition is false, it is the last one if it also comes up to
the expire count, and it is counted in any case.  Numbers and the sum of the two counts are taken to
be at most `2 ^ 32 - 1`.  All other hits pass uncounted.  So a breakpoint that can expire stops at
most as often as its expire count says. -/
theorem hits_law {bp : Breakpoint} (hbp : bp.Ready) (calls : List (Bool × TargetState))
    (chainEnabled : Bool) (state : TargetState) :
    let outcomes := (bp.hits calls).1
    let now := (bp.hits calls).2
    let outcome := (now.evaluate chainEnabled state).1
    let next := (now.evaluate chainEnabled state).2
    (expiredIn outcomes = false → chainEnabled = true →
      let count := min (letThrough calls + 1) 0xFFFFFFFF
      (outcome.decision = .stop ↔ bp.skipCount < count ∧
        ∀ condition ∈ bp.conditions, condition.check state ≠ .ok false) ∧
      (outcome.expiredNow = true ↔ outcome.decision = .stop ∧ 0 < bp.expireCount ∧
        min (bp.skipCount + bp.expireCount) 0xFFFFFFFF ≤ count) ∧
      next.stopCount = count) ∧
    (expiredIn outcomes = true ∨ chainEnabled = false →
      outcome.decision = .proceed ∧ outcome.expiredNow = false ∧
        next.stopCount = now.stopCount) ∧
    (0 < bp.expireCount → stops outcomes ≤ bp.expireCount) := by
  intro outcomes now outcome next
  refine ⟨fun hlive hchain => ?_, fun hpassing => ?_,
    fun hexpire => (hbp.stops_hits hexpire calls).1⟩
  · subst hchain
    have hlaw := hbp.evaluate_hits hlive state
    simp only [saturated_eq] at hlaw
    exact hlaw
  · have hforce : now.inForce chainEnabled = false := by
      rw [hbp.inForce_hits]
      rcases hpassing with hexpired | hchain
      · rw [hexpired]
        rfl
      · rw [hchain, Bool.and_false]
    have hevaluate := evaluate_of_not_inForce hforce state
    exact ⟨congrArg (·.1.decision) hevaluate, congrArg (·.1.expiredNow) hevaluate,
      congrArg (·.2.stopCount) hevaluate⟩

/-- With one hit to skip and one to stop at, the second hit that the chain lets through stops and is
the last. -/
theorem hits_law_last :
    let bp : Breakpoint :=
      { Breakpoint.create 1 .uncaughtException 0 true .all with skipCount := 1, expireCount := 1 }
    let now := (bp.hits [(true, .unknown), (false, .unknown)]).2
    (now.evaluate true .unknown).1.decision = .stop ∧
      (now.evaluate true .unknown).1.expiredNow = true := by
  intro bp now
  have hready : bp.Ready := ⟨rfl, rfl, rfl, rfl⟩
  obtain ⟨hdecision, hexpires, -⟩ :=
    (hits_law hready [(true, .unknown), (false, .unknown)] true .unknown).1 (by decide) rfl
  have hstop := hdecision.mpr ⟨by decide, by simp [bp, Breakpoint.create]⟩
  exact ⟨hstop, hexpires.mpr ⟨hstop, by decide, by decide⟩⟩

end Breakpoint

end Breakpoints
