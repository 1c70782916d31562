import Breakpoints.Proofs.Breakpoint.Evaluation

/-!
What one hit calls, in order.  A hit that is passed over calls nothing; else the conditions are
checked up to the first that is false, and the monitors run only if there is none.  A failure is
reported and has no other effect.
-/

namespace Breakpoints

/-- The errors in a row of results. -/
def errors {ε α : Type} : List (Except ε α) → List ε
  | [] => []
  | .ok _ :: results => errors results
  | .error e :: results => e :: errors results

theorem errors_singleton_append {ε α : Type} (result : Except ε α) (results : List (Except ε α)) :
    errors [result] ++ errors results = errors (result :: results) := by
  cases result with
  | ok _ => rfl
  | error _ => rfl

/-- The failures of monitors are the errors of their runs. -/
theorem filterMap_failure? (state : TargetState) (monitors : List Monitor) :
    monitors.filterMap (·.failure? state) = errors (monitors.map (·.run state)) := by
  induction monitors with
  | nil => rfl
  | cons monitor monitors ih =>
      rw [List.filterMap_cons, List.map_cons, ih]
      cases hrun : monitor.run state with
      | ok _ =>
          rw [Monitor.failure?, hrun]
          rfl
      | error failure =>
          rw [Monitor.failure?_eq_some_iff.mpr hrun]
          rfl

section Check

variable {state : TargetState} {condition : Condition}

/-- A condition that is not false is called and reported, and the others have their turn. -/
theorem checkConditions_cons (h : condition.check state ≠ .ok false) (rest : List Condition) :
    checkConditions state (condition :: rest) =
      ⟨(checkConditions state rest).vetoed,
        errors [condition.check state] ++ (checkConditions state rest).failures,
        .checked condition.text :: (checkConditions state rest).calls⟩ := by
  rw [checkConditions]
  cases hcheck : condition.check state with
  | ok answer =>
      cases answer with
      | false => contradiction
      | true => rfl
  | error failure => rfl

theorem checkConditions_cons_false (h : condition.check state = .ok false)
    (rest : List Condition) :
    checkConditions state (condition :: rest) = ⟨true, [], [.checked condition.text]⟩ := by
  rw [checkConditions, h]

end Check

/-- The conditions are called up to the first that is false, or all of them if none is. -/
theorem checkConditions_cases (state : TargetState) (conditions : List Condition) :
    (∃ before vetoing rest, conditions = before ++ vetoing :: rest ∧
      (∀ condition ∈ before, condition.check state ≠ .ok false) ∧
      vetoing.check state = .ok false ∧
      checkConditions state conditions = ⟨true,
        errors ((before ++ [vetoing]).map (·.check state)),
        (before ++ [vetoing]).map fun condition => .checked condition.text⟩) ∨
    ((∀ condition ∈ conditions, condition.check state ≠ .ok false) ∧
      checkConditions state conditions = ⟨false,
        errors (conditions.map (·.check state)),
        conditions.map fun condition => .checked condition.text⟩) := by
  induction conditions with
  | nil => exact .inr ⟨by simp, rfl⟩
  | cons condition conditions ih =>
      by_cases hfalse : condition.check state = .ok false
      · refine .inl ⟨[], condition, conditions, rfl, by simp, hfalse, ?_⟩
        rw [checkConditions_cons_false hfalse, List.nil_append, List.map_singleton, hfalse]
        rfl
      · rw [checkConditions_cons hfalse]
        rcases ih with ⟨before, vetoing, rest, rfl, hbefore, hvetoing, hverdict⟩ | ⟨hnone, hverdict⟩
        · refine .inl ⟨condition :: before, vetoing, rest, rfl, ?_, hvetoing, ?_⟩
          · exact List.forall_mem_cons.mpr ⟨hfalse, hbefore⟩
          · rw [hverdict, errors_singleton_append]
            rfl
        · refine .inr ⟨List.forall_mem_cons.mpr ⟨hfalse, hnone⟩, ?_⟩
          rw [hverdict, errors_singleton_append]
          rfl

theorem length_calls_le (state : TargetState) (conditions : List Condition) :
    (checkConditions state conditions).calls.length ≤ conditions.length := by
  rcases checkConditions_cases state conditions with
    ⟨before, vetoing, rest, rfl, -, -, hverdict⟩ | ⟨-, hverdict⟩
  · rw [hverdict]
    simp
  · rw [hverdict]
    simp

theorem length_calls_of_not_vetoed {state : TargetState} {conditions : List Condition}
    (h : (checkConditions state conditions).vetoed = false) :
    (checkConditions state conditions).calls.length = conditions.length := by
  rcases checkConditions_cases state conditions with
    ⟨before, vetoing, rest, -, -, -, hverdict⟩ | ⟨-, hverdict⟩
  · rw [hverdict] at h
    contradiction
  · rw [hverdict, List.length_map]

section Replaced

variable {state : TargetState} {failing passing : Condition} {failure : ConditionFailure}

/-- A condition that holds in the place of one that fails takes its call, and nothing else is
different. -/
theorem checkConditions_replaced (hfails : failing.check state = .error failure)
    (hholds : passing.check state = .ok true) (before rest : List Condition) :
    (checkConditions state (before ++ passing :: rest)).vetoed =
        (checkConditions state (before ++ failing :: rest)).vetoed ∧
      (checkConditions state (before ++ passing :: rest)).calls =
        (checkConditions state (before ++ failing :: rest)).calls.set before.length
          (.checked passing.text) := by
  induction before with
  | nil =>
      have hpassing := checkConditions_cons (by simp [hholds] : passing.check state ≠ _) rest
      have hfailing := checkConditions_cons (by simp [hfails] : failing.check state ≠ _) rest
      rw [List.nil_append, List.nil_append, hpassing, hfailing]
      exact ⟨rfl, rfl⟩
  | cons condition before ih =>
      rw [List.cons_append, List.cons_append]
      by_cases hfalse : condition.check state = .ok false
      · rw [checkConditions_cons_false hfalse, checkConditions_cons_false hfalse]
        exact ⟨rfl, rfl⟩
      · rw [checkConditions_cons hfalse, checkConditions_cons hfalse, List.length_cons,
          List.set_cons_succ, ih.1, ih.2]
        exact ⟨rfl, rfl⟩

end Replaced

namespace Breakpoint

variable {bp : Breakpoint} {chainEnabled : Bool}

/-- Whether a hit is passed over before any condition: it does not count, or its number, at most
`2 ^ 32 - 1`, is among those to be skipped. -/
def PassesOver (bp : Breakpoint) (chainEnabled : Bool) : Prop :=
  bp.destroyed = true ∨ bp.expired = true ∨ bp.enabled = false ∨ chainEnabled = false ∨
    min (bp.stopCount + 1) 0xFFFFFFFF ≤ bp.skipCount

theorem passesOver_iff : bp.PassesOver chainEnabled ↔
    bp.inForce chainEnabled = false ∨ saturated (bp.stopCount + 1) ≤ bp.skipCount := by
  rw [PassesOver, inForce, saturated_eq]
  simp only [Bool.and_eq_false_iff, Bool.not_eq_false', or_assoc]

/-- A hit that is passed over calls nothing; it counts if the breakpoint is in force. -/
theorem evaluate_of_passesOver (h : bp.PassesOver chainEnabled) (state : TargetState) :
    bp.evaluate chainEnabled state = (.passed,
      if bp.inForce chainEnabled then { bp with stopCount := saturated (bp.stopCount + 1) }
      else bp) := by
  cases hforce : bp.inForce chainEnabled with
  | false =>
      rw [evaluate_of_not_inForce hforce]
      rfl
  | true =>
      have hskip : saturated (bp.stopCount + 1) ≤ bp.skipCount := by
        simpa [passesOver_iff, hforce] using h
      have hpositive := saturated_pos bp.stopCount
      have hskipping : (decide (0 < bp.skipCount) &&
          decide (saturated (bp.stopCount + 1) ≤ bp.skipCount)) = true := by
        simp only [Bool.and_eq_true, decide_eq_true_iff]
        omega
      rw [evaluate, hforce]
      simp only [Bool.not_true, Bool.false_eq_true, ↓reduceIte, hskipping]

section Checked

variable (h : ¬ bp.PassesOver chainEnabled) {state : TargetState}

include h

theorem inForce_of_not_passesOver : bp.inForce chainEnabled = true := by
  rw [passesOver_iff, not_or, Bool.not_eq_false] at h
  exact h.1

theorem past_of_not_passesOver :
    (decide (0 < bp.skipCount) && decide (saturated (bp.stopCount + 1) ≤ bp.skipCount)) =
      false := by
  rw [passesOver_iff, not_or] at h
  rw [decide_eq_false h.2, Bool.and_false]

/-- A hit with a condition that is false counts and goes on. -/
theorem evaluate_of_vetoed (hveto : (checkConditions state bp.conditions).vetoed = true) :
    bp.evaluate chainEnabled state =
      (⟨.proceed, false, (checkConditions state bp.conditions).failures, [],
          (checkConditions state bp.conditions).calls⟩,
        { bp with stopCount := saturated (bp.stopCount + 1) }) := by
  rw [evaluate, inForce_of_not_passesOver h]
  simp only [Bool.not_true, Bool.false_eq_true, ↓reduceIte, past_of_not_passesOver h, hveto]

theorem evaluate_of_not_vetoed (hveto : (checkConditions state bp.conditions).vetoed = false) :
    bp.evaluate chainEnabled state =
      (⟨.stop, bp.expiresAt (saturated (bp.stopCount + 1)),
          (checkConditions state bp.conditions).failures,
          bp.monitors.filterMap (·.failure? state),
          (checkConditions state bp.conditions).calls ++
            bp.monitors.map fun monitor => .ran monitor.text⟩,
        { bp with
          stopCount := saturated (bp.stopCount + 1)
          expired := bp.expiresAt (saturated (bp.stopCount + 1)) }) := by
  rw [evaluate, inForce_of_not_passesOver h]
  simp only [Bool.not_true, Bool.false_eq_true, ↓reduceIte, past_of_not_passesOver h, hveto]

end Checked

/-- Two hits with the same decision, of which one has another call at one position. -/
structure OneCallApart (position : Nat) (call : Call) (was now : HitOutcome) : Prop where
  decision : now.decision = was.decision
  expiredNow : now.expiredNow = was.expiredNow
  calls : now.calls = was.calls.set position call

section Replaced

variable {state : TargetState}

/-- A condition that holds in the place of one that fails changes nothing but its own call. -/
theorem evaluate_condition_replaced {before rest : List Condition} {failing passing : Condition}
    {failure : ConditionFailure} (hconditions : bp.conditions = before ++ failing :: rest)
    (hfails : failing.check state = .error failure) (hholds : passing.check state = .ok true) :
    let mended := { bp with conditions := before ++ passing :: rest }
    let was := bp.evaluate chainEnabled state
    let now := mended.evaluate chainEnabled state
    OneCallApart before.length (.checked passing.text) was.1 now.1 ∧
      now.2 = { was.2 with conditions := before ++ passing :: rest } := by
  intro mended was now
  by_cases hpasses : bp.PassesOver chainEnabled
  · have hmended : mended.PassesOver chainEnabled := hpasses
    have hwas : was = _ := evaluate_of_passesOver hpasses state
    have hnow : now = _ := evaluate_of_passesOver hmended state
    have hforce : mended.inForce chainEnabled = bp.inForce chainEnabled := rfl
    rw [hwas, hnow, hforce]
    refine ⟨⟨rfl, rfl, rfl⟩, ?_⟩
    cases bp.inForce chainEnabled with
    | false => rfl
    | true => rfl
  · have hmended : ¬ mended.PassesOver chainEnabled := hpasses
    obtain ⟨hvetoed, hcalls⟩ := checkConditions_replaced hfails hholds before rest
    rw [← hconditions] at hvetoed hcalls
    cases hveto : (checkConditions state bp.conditions).vetoed with
    | true =>
        have hwas : was = _ := evaluate_of_vetoed hpasses hveto
        have hnow : now = _ := evaluate_of_vetoed hmended (hvetoed.trans hveto)
        rw [hwas, hnow]
        exact ⟨⟨rfl, rfl, hcalls⟩, rfl⟩
    | false =>
        have hwas : was = _ := evaluate_of_not_vetoed hpasses hveto
        have hnow : now = _ := evaluate_of_not_vetoed hmended (hvetoed.trans hveto)
        have hlength : before.length < (checkConditions state bp.conditions).calls.length := by
          rw [length_calls_of_not_vetoed hveto, hconditions]
          simp
        rw [hwas, hnow]
        refine ⟨⟨rfl, rfl, ?_⟩, rfl⟩
        rw [List.set_append_left before.length _ hlength, ← hcalls]

/-- A monitor in the place of another changes nothing but its own call. -/
theorem evaluate_monitor_replaced {before rest : List Monitor} {other : Monitor} (monitor : Monitor)
    (hmonitors : bp.monitors = before ++ other :: rest) :
    let mended := { bp with monitors := before ++ monitor :: rest }
    let was := bp.evaluate chainEnabled state
    let now := mended.evaluate chainEnabled state
    OneCallApart (bp.conditions.length + before.length) (.ran monitor.text) was.1 now.1 ∧
      now.2 = { was.2 with monitors := before ++ monitor :: rest } := by
  intro mended was now
  by_cases hpasses : bp.PassesOver chainEnabled
  · have hmended : mended.PassesOver chainEnabled := hpasses
    have hwas : was = _ := evaluate_of_passesOver hpasses state
    have hnow : now = _ := evaluate_of_passesOver hmended state
    have hforce : mended.inForce chainEnabled = bp.inForce chainEnabled := rfl
    rw [hwas, hnow, hforce]
    refine ⟨⟨rfl, rfl, rfl⟩, ?_⟩
    cases bp.inForce chainEnabled with
    | false => rfl
    | true => rfl
  · have hmended : ¬ mended.PassesOver chainEnabled := hpasses
    cases hveto : (checkConditions state bp.conditions).vetoed with
    | true =>
        have hwas : was = _ := evaluate_of_vetoed hpasses hveto
        have hnow : now = _ := evaluate_of_vetoed hmended hveto
        have hlength := length_calls_le state bp.conditions
        rw [hwas, hnow]
        refine ⟨⟨rfl, rfl, ?_⟩, rfl⟩
        exact (List.set_eq_of_length_le (Nat.le_add_right_of_le hlength)).symm
    | false =>
        have hwas : was = _ := evaluate_of_not_vetoed hpasses hveto
        have hnow : now = _ := evaluate_of_not_vetoed hmended hveto
        have hlength := length_calls_of_not_vetoed hveto
        rw [hwas, hnow]
        refine ⟨⟨rfl, rfl, ?_⟩, rfl⟩
        rw [← hlength, hmonitors, List.set_append_right _ _ (Nat.le_add_right _ _),
          Nat.add_sub_cancel_left]
        simp [mended]

end Replaced

/-- What one hit calls and reports.  A hit that is passed over calls nothing.  Any other hit checks
the conditions in order, up to the first that is false: if there is one, no monitor runs, and the
breakpoint goes on and does not expire; if there is none, every monitor runs once, in order, and the
hit stops.  The reported failures are those of the conditions checked and of the monitors run.  With
a condition that holds in the place of one that fails, or with another monitor in the place of any,
one call is another one; the decision, the other calls and what becomes of the breakpoint are the
same. -/
theorem evaluate_effects (bp : Breakpoint) (chainEnabled : Bool) (state : TargetState) :
    let outcome := (bp.evaluate chainEnabled state).1
    let next := (bp.evaluate chainEnabled state).2
    (bp.PassesOver chainEnabled →
      outcome.decision = .proceed ∧ outcome.expiredNow = false ∧ outcome.conditionFailures = [] ∧
        outcome.monitorFailures = [] ∧ outcome.calls = []) ∧
    (¬ bp.PassesOver chainEnabled →
      (∃ before vetoing rest, bp.conditions = before ++ vetoing :: rest ∧
        (∀ condition ∈ before, condition.check state ≠ .ok false) ∧
        vetoing.check state = .ok false ∧
        outcome.decision = .proceed ∧ outcome.expiredNow = false ∧ next.expired = false ∧
        outcome.conditionFailures = errors ((before ++ [vetoing]).map (·.check state)) ∧
        outcome.monitorFailures = [] ∧
        outcome.calls = (before ++ [vetoing]).map fun condition => .checked condition.text) ∨
      ((∀ condition ∈ bp.conditions, condition.check state ≠ .ok false) ∧
        outcome.decision = .stop ∧
        outcome.conditionFailures = errors (bp.conditions.map (·.check state)) ∧
        outcome.monitorFailures = errors (bp.monitors.map (·.run state)) ∧
        outcome.calls = (bp.conditions.map fun condition => .checked condition.text) ++
          bp.monitors.map fun monitor => .ran monitor.text)) ∧
    (∀ before failing rest failure passing, bp.conditions = before ++ failing :: rest →
      failing.check state = .error failure → passing.check state = .ok true →
      let mended := { bp with conditions := before ++ passing :: rest }
      let (outcome', next') := mended.evaluate chainEnabled state
      OneCallApart before.length (.checked passing.text) outcome outcome' ∧
        next' = { next with conditions := before ++ passing :: rest }) ∧
    (∀ before other rest monitor, bp.monitors = before ++ other :: rest →
      let mended := { bp with monitors := before ++ monitor :: rest }
      let (outcome', next') := mended.evaluate chainEnabled state
      OneCallApart (bp.conditions.length + before.length) (.ran monitor.text) outcome outcome' ∧
        next' = { next with monitors := before ++ monitor :: rest }) := by
  intro outcome next
  refine ⟨fun hpasses => ?_, fun hpasses => ?_, ?_, ?_⟩
  · exact HitOutcome.eq_passed_iff.mp (congrArg (·.1) (evaluate_of_passesOver hpasses state))
  · have hlive : bp.expired = false :=
      (inForce_eq_true_iff.mp (inForce_of_not_passesOver hpasses)).2.1
    rcases checkConditions_cases state bp.conditions with
      ⟨before, vetoing, rest, hsplit, hbefore, hvetoing, hverdict⟩ | ⟨hnone, hverdict⟩
    · have hevaluate := evaluate_of_vetoed hpasses (congrArg (·.vetoed) hverdict)
      rw [hverdict] at hevaluate
      have houtcome : outcome = _ := congrArg (·.1) hevaluate
      have hnext : next = _ := congrArg (·.2) hevaluate
      rw [houtcome, hnext]
      exact .inl ⟨before, vetoing, rest, hsplit, hbefore, hvetoing, rfl, rfl, hlive, rfl, rfl, rfl⟩
    · have hevaluate := evaluate_of_not_vetoed hpasses (congrArg (·.vetoed) hverdict)
      rw [hverdict] at hevaluate
      have houtcome : outcome = _ := congrArg (·.1) hevaluate
      rw [houtcome]
      exact .inr ⟨hnone, rfl, rfl, filterMap_failure? state bp.monitors, rfl⟩
  · intro before failing rest failure passing hconditions hfails hholds
    exact evaluate_condition_replaced hconditions hfails hholds
  · intro before other rest monitor hmonitors
    exact evaluate_monitor_replaced monitor hmonitors

example :
    let broken : Condition := ⟨"x", fun _ => .error ⟨"x", "unknown"⟩⟩
    let off : Condition := ⟨"y", fun _ => .ok false⟩
    let bp : Breakpoint :=
      { create 1 .uncaughtException 0 true .all with
        conditions := [broken, off, broken], monitors := [⟨"where", fun _ => .ok ()⟩] }
    (bp.evaluate true .unknown).1 =
      ⟨.proceed, false, [⟨"x", "unknown"⟩], [], [.checked "x", .checked "y"]⟩ := by
  decide

end Breakpoint

end Breakpoints
