import Breakpoints.Breakpoint.Hit

/-!
What one hit does to its breakpoint: it counts, and it may expire.  Everything else stays.
-/

namespace Breakpoints

/-- Only a condition that is false vetoes; one that fails does not. -/
theorem vetoed_checkConditions_iff (state : TargetState) (conditions : List Condition) :
    (checkConditions state conditions).vetoed = true ↔
      ∃ condition ∈ conditions, condition.check state = .ok false := by
  induction conditions with
  | nil => simp [checkConditions]
  | cons condition rest ih =>
      rw [checkConditions]
      split
      next hfalse => simp [hfalse]
      next htrue => simp [htrue, ih]
      next reason herror => simp [herror, ih]

theorem saturated_pos (n : Nat) : 0 < saturated (n + 1) := by
  rw [saturated_eq]
  omega

namespace Breakpoint

variable {bp : Breakpoint} {chainEnabled : Bool}

theorem inForce_eq_true_iff : bp.inForce chainEnabled = true ↔
    bp.destroyed = false ∧ bp.expired = false ∧ bp.enabled = true ∧ chainEnabled = true := by
  simp only [inForce, Bool.and_eq_true, Bool.not_eq_true', and_assoc]

theorem evaluate_of_not_inForce (h : bp.inForce chainEnabled = false) (state : TargetState) :
    bp.evaluate chainEnabled state = (.passed, bp) := by
  simp [evaluate, h]

section InForce

variable (hforce : bp.inForce chainEnabled = true) (state : TargetState)

include hforce

/-- A hit that counts stops when it is past the skip count and no condition is false. -/
theorem decision_evaluate_iff :
    (bp.evaluate chainEnabled state).1.decision = .stop ↔
      bp.skipCount < saturated (bp.stopCount + 1) ∧
        ∀ condition ∈ bp.conditions, condition.check state ≠ .ok false := by
  have hpos := saturated_pos bp.stopCount
  rw [evaluate, hforce]
  simp only [Bool.not_true, Bool.false_eq_true, ↓reduceIte]
  split
  next hskip =>
    simp only [Bool.and_eq_true, decide_eq_true_eq] at hskip
    simp only [HitOutcome.passed, reduceCtorEq, false_iff, not_and]
    intro hpast
    omega
  next hpast =>
    simp only [Bool.and_eq_true, decide_eq_true_eq, not_and, Nat.not_le] at hpast
    have hpassed : bp.skipCount < saturated (bp.stopCount + 1) := by omega
    have hvetoed := vetoed_checkConditions_iff state bp.conditions
    split
    next hveto =>
      obtain ⟨condition, hmem, hfalse⟩ := hvetoed.mp hveto
      simp only [reduceCtorEq, false_iff, not_and]
      exact fun _ h => h condition hmem hfalse
    next hveto =>
      simp only [true_iff]
      exact ⟨hpassed, fun condition hmem hfalse => hveto (hvetoed.mpr ⟨condition, hmem, hfalse⟩)⟩

/-- A hit that stops is the last one when the count has come far enough. -/
theorem expiredNow_evaluate_iff :
    (bp.evaluate chainEnabled state).1.expiredNow = true ↔
      (bp.evaluate chainEnabled state).1.decision = .stop ∧
        bp.expiresAt (saturated (bp.stopCount + 1)) = true := by
  rw [evaluate, hforce]
  simp only [Bool.not_true, Bool.false_eq_true, ↓reduceIte]
  split
  · simp [HitOutcome.passed]
  split
  · simp
  · simp

theorem evaluate_snd_of_inForce :
    (bp.evaluate chainEnabled state).2 =
      { bp with
        stopCount := saturated (bp.stopCount + 1)
        expired := (bp.evaluate chainEnabled state).1.expiredNow } := by
  have hexpired : bp.expired = false := (inForce_eq_true_iff.mp hforce).2.1
  rw [evaluate, hforce]
  simp only [Bool.not_true, Bool.false_eq_true, ↓reduceIte]
  split
  · rw [HitOutcome.passed, ← hexpired]
  split
  · rw [← hexpired]
  · rfl

end InForce

/-- A hit changes the count, and the expired flag if the breakpoint expires with it. -/
theorem evaluate_snd (bp : Breakpoint) (chainEnabled : Bool) (state : TargetState) :
    ∃ stopCount, (bp.evaluate chainEnabled state).2 =
      if (bp.evaluate chainEnabled state).1.expiredNow then
        { bp with stopCount, expired := true }
      else { bp with stopCount } := by
  cases hforce : bp.inForce chainEnabled with
  | false =>
      refine ⟨bp.stopCount, ?_⟩
      rw [evaluate_of_not_inForce hforce]
      rfl
  | true =>
      refine ⟨saturated (bp.stopCount + 1), ?_⟩
      rw [evaluate_snd_of_inForce hforce]
      have hexpired : bp.expired = false := (inForce_eq_true_iff.mp hforce).2.1
      cases (bp.evaluate chainEnabled state).1.expiredNow with
      | false => rw [if_neg Bool.false_ne_true, ← hexpired]
      | true => rw [if_pos rfl]

/-- A hit that stops goes to a breakpoint in force. -/
theorem inForce_of_stop {state : TargetState}
    (h : (bp.evaluate chainEnabled state).1.decision = .stop) : bp.inForce chainEnabled = true := by
  cases hforce : bp.inForce chainEnabled with
  | false =>
      rw [evaluate_of_not_inForce hforce] at h
      contradiction
  | true => rfl

/-- A breakpoint expires with a hit if it has expired after it and had not before. -/
theorem expiredNow_evaluate (bp : Breakpoint) (chainEnabled : Bool) (state : TargetState) :
    (bp.evaluate chainEnabled state).1.expiredNow =
      ((bp.evaluate chainEnabled state).2.expired && !bp.expired) := by
  cases hforce : bp.inForce chainEnabled with
  | false =>
      rw [evaluate_of_not_inForce hforce, Bool.and_not_self]
      rfl
  | true =>
      rw [evaluate_snd_of_inForce hforce, (inForce_eq_true_iff.mp hforce).2.1, Bool.not_false,
        Bool.and_true]

/-- A hit leaves a breakpoint as it is, but for the count and the expired flag. -/
theorem evaluate_snd_eq (bp : Breakpoint) (chainEnabled : Bool) (state : TargetState) :
    (bp.evaluate chainEnabled state).2 =
      { bp with
        stopCount := (bp.evaluate chainEnabled state).2.stopCount
        expired := (bp.evaluate chainEnabled state).2.expired } := by
  obtain ⟨stopCount, hafter⟩ := bp.evaluate_snd chainEnabled state
  rw [hafter]
  split
  · rfl
  · rfl

end Breakpoint

end Breakpoints
