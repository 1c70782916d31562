import Breakpoints.Proofs.Registry.Effect

/-!
What a row of hits of one breakpoint is answered.  It is decided by the configuration and by what
became of the breakpoint so far; what it is called and what it is bound to do not matter.
-/

namespace Breakpoints

/-- A report without the names of its breakpoint and of the request. -/
def HitReport.unlabelled (report : HitReport) : HitReport :=
  { report with
    breakpoint := report.breakpoint.map fun _ => 0
    request := 0 }

/-- A row of answers without these names. -/
def unlabelled (answers : List (HitReport × List Call)) : List (HitReport × List Call) :=
  answers.map fun answer => (answer.1.unlabelled, answer.2)

namespace Breakpoint

/-- Two breakpoints that are configured alike and of which the same became so far.  What they bind
to and where they are is left out, and so are the filters, which only the target follows. -/
structure Alike (bp bp' : Breakpoint) : Prop where
  enabled_eq : bp.enabled = bp'.enabled
  skipCount_eq : bp.skipCount = bp'.skipCount
  stopCount_eq : bp.stopCount = bp'.stopCount
  expireCount_eq : bp.expireCount = bp'.expireCount
  expired_eq : bp.expired = bp'.expired
  deleteOnExpire_eq : bp.deleteOnExpire = bp'.deleteOnExpire
  destroyed_eq : bp.destroyed = bp'.destroyed
  policy_eq : bp.policy = bp'.policy
  conditions_eq : bp.conditions = bp'.conditions
  monitors_eq : bp.monitors = bp'.monitors

/-- A breakpoint that was not hit yet, and is configured like another one. -/
structure FreshLike (fresh bp : Breakpoint) : Prop where
  stopCount_eq : fresh.stopCount = 0
  expired_eq : fresh.expired = false
  destroyed_eq : fresh.destroyed = false
  enabled_eq : fresh.enabled = bp.enabled
  skipCount_eq : fresh.skipCount = bp.skipCount
  expireCount_eq : fresh.expireCount = bp.expireCount
  deleteOnExpire_eq : fresh.deleteOnExpire = bp.deleteOnExpire
  policy_eq : fresh.policy = bp.policy
  conditions_eq : fresh.conditions = bp.conditions
  monitors_eq : fresh.monitors = bp.monitors

/-- A row of hits of a breakpoint, and what each is answered.  Each comes with the flag of the group
chain and the state of the target.  Once nothing is left of the breakpoint its request leads to
nobody. -/
def session (bp : Breakpoint) (id : Nat) (request : Int) :
    List (Bool × TargetState) → List (HitReport × List Call)
  | [] => []
  | (chainEnabled, state) :: row =>
    let (report, calls, effect) := bp.hit id request chainEnabled state
    (report, calls) ::
      match effect.left with
      | none => row.map fun _ => (.unrouted request, [])
      | some after => after.session id request row

section Cons

variable {bp : Breakpoint} {id : Nat} {request : Int} {chainEnabled : Bool} {state : TargetState}

theorem session_cons_of_none (h : (bp.hit id request chainEnabled state).2.2.left = none)
    (row : List (Bool × TargetState)) :
    bp.session id request ((chainEnabled, state) :: row) =
      ((bp.hit id request chainEnabled state).1, (bp.hit id request chainEnabled state).2.1) ::
        row.map fun _ => (.unrouted request, []) := by
  simp only [session, h]

theorem session_cons_of_some {after : Breakpoint}
    (h : (bp.hit id request chainEnabled state).2.2.left = some after)
    (row : List (Bool × TargetState)) :
    bp.session id request ((chainEnabled, state) :: row) =
      ((bp.hit id request chainEnabled state).1, (bp.hit id request chainEnabled state).2.1) ::
        after.session id request row := by
  simp only [session, h]

end Cons

variable {bp bp' : Breakpoint}

/-- A breakpoint whose count and expiry were forgotten is like a fresh one. -/
theorem FreshLike.alike {fresh : Breakpoint} (h : fresh.FreshLike bp)
    (hlive : bp.destroyed = false) (binding : Option Binding) :
    Alike { bp with stopCount := 0, expired := false, binding } fresh where
  enabled_eq := h.enabled_eq.symm
  skipCount_eq := h.skipCount_eq.symm
  stopCount_eq := h.stopCount_eq.symm
  expireCount_eq := h.expireCount_eq.symm
  expired_eq := h.expired_eq.symm
  deleteOnExpire_eq := h.deleteOnExpire_eq.symm
  destroyed_eq := hlive.trans h.destroyed_eq.symm
  policy_eq := h.policy_eq.symm
  conditions_eq := h.conditions_eq.symm
  monitors_eq := h.monitors_eq.symm

namespace Alike

/-- Counts and expiry are all that a hit changes. -/
theorem update (h : Alike bp bp') (stopCount : Nat) (expired : Bool) :
    Alike { bp with stopCount, expired } { bp' with stopCount, expired } :=
  { h with stopCount_eq := rfl, expired_eq := rfl }

theorem inForce_eq (h : Alike bp bp') (chainEnabled : Bool) :
    bp.inForce chainEnabled = bp'.inForce chainEnabled := by
  rw [inForce, inForce, h.destroyed_eq, h.expired_eq, h.enabled_eq]

theorem expiresAt_eq (h : Alike bp bp') (count : Nat) :
    bp.expiresAt count = bp'.expiresAt count := by
  rw [expiresAt, expiresAt, h.expireCount_eq, h.skipCount_eq]

theorem evaluate_fst (h : Alike bp bp') (chainEnabled : Bool) (state : TargetState) :
    (bp.evaluate chainEnabled state).1 = (bp'.evaluate chainEnabled state).1 := by
  simp only [evaluate, h.inForce_eq, h.stopCount_eq, h.skipCount_eq, h.conditions_eq,
    h.monitors_eq, h.expiresAt_eq]
  split
  · rfl
  split
  · rfl
  split
  · rfl
  · rfl

/-- A hit leaves the two alike. -/
theorem evaluate_snd (h : Alike bp bp') (chainEnabled : Bool) (state : TargetState) :
    Alike (bp.evaluate chainEnabled state).2 (bp'.evaluate chainEnabled state).2 := by
  have hsame := h.inForce_eq chainEnabled
  cases hforce : bp.inForce chainEnabled with
  | false =>
      rw [evaluate_of_not_inForce hforce, evaluate_of_not_inForce (hsame.symm.trans hforce)]
      exact h
  | true =>
      rw [evaluate_snd_of_inForce hforce, evaluate_snd_of_inForce (hsame.symm.trans hforce),
        h.evaluate_fst, h.stopCount_eq]
      exact h.update _ _

/-- Two hits are answered alike, whatever the breakpoints are called, and what is left of the one is
like what is left of the other. -/
theorem hit (h : Alike bp bp') (id id' : Nat) (request request' : Int) (chainEnabled : Bool)
    (state : TargetState) :
    let result := bp.hit id request chainEnabled state
    let result' := bp'.hit id' request' chainEnabled state
    result.1.unlabelled = result'.1.unlabelled ∧ result.2.1 = result'.2.1 ∧
      Option.Rel Alike result.2.2.left result'.2.2.left := by
  have houtcome := h.evaluate_fst chainEnabled state
  have hafter := h.evaluate_snd chainEnabled state
  simp only [Breakpoint.hit, HitReport.unlabelled, Option.map_some, houtcome, hafter.policy_eq,
    hafter.stopCount_eq, hafter.expired_eq, hafter.deleteOnExpire_eq, true_and]
  split
  · exact .none
  · exact .some hafter

/-- Two rows of hits are answered alike, whatever the breakpoints are called. -/
theorem session (h : Alike bp bp') (id id' : Nat) (request request' : Int)
    (row : List (Bool × TargetState)) :
    unlabelled (bp.session id request row) = unlabelled (bp'.session id' request' row) := by
  induction row generalizing bp bp' with
  | nil => rfl
  | cons visit row ih =>
      obtain ⟨chainEnabled, state⟩ := visit
      obtain ⟨hreport, hcalls, hleft⟩ := h.hit id id' request request' chainEnabled state
      generalize hnow : (bp.hit id request chainEnabled state).2.2.left = left at hleft
      generalize hnow' : (bp'.hit id' request' chainEnabled state).2.2.left = left' at hleft
      cases hleft with
      | none =>
          rw [session_cons_of_none hnow, session_cons_of_none hnow']
          simp only [unlabelled, List.map_cons, List.map_map, hreport, hcalls]
          rfl
      | some hafter =>
          have hrest := ih hafter
          rw [session_cons_of_some hnow, session_cons_of_some hnow']
          simp only [unlabelled, List.map_cons, hreport, hcalls] at hrest ⊢
          rw [hrest]

end Alike

end Breakpoint

end Breakpoints
