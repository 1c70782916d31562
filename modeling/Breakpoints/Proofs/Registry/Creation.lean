import Breakpoints.Proofs.Registry.Steps

/-!
Making a breakpoint and binding it, as equations: what is left when an attempt succeeds, and when it
fails.
-/

namespace Breakpoints.Registry

section Insert

variable {τ : Type} {m m' : Registry τ}

/-- What becomes of a new breakpoint before it is bound. -/
theorem insert_eq_ok {spec : Spec} {group id : Nat}
    {configure : Breakpoint → Except Failure Breakpoint}
    (h : m.insert spec group configure = (.ok id, m')) :
    id = m.nextId ∧ ∃ made bp groups, m.kit.make id spec group m.settings = .ok made ∧
      configure made = .ok bp ∧ m.groups.moveMember id none group = .ok groups ∧
      m' = { m.store bp id with nextId := id + 1, groups } := by
  simp only [insert] at h
  split at h
  · cases h
  next made hmake =>
    split at h
    · cases h
    next bp hbp =>
      split at h
      · cases h
      next groups hgroups =>
        cases h
        exact ⟨rfl, made, bp, groups, hmake, hbp, hgroups, rfl⟩

/-- The kind or the group is at fault when a breakpoint cannot be made as its kind has it. -/
theorem insert_eq_error {spec : Spec} {group : Nat} {e : Failure}
    (h : m.insert spec group .ok = (.error e, m')) :
    (∃ kind, e = .unsupportedKind kind) ∨ ∃ group, e = .unknownGroup group := by
  simp only [insert, Kit.make, GroupTree.moveMember] at h
  split at h
  next hmake =>
    cases h
    split at hmake
    · cases hmake
      exact .inl ⟨_, rfl⟩
    · cases hmake
  next =>
    split at h
    next hgroups =>
      cases h
      split at hgroups
      · cases hgroups
      · cases hgroups
        exact .inr ⟨_, rfl⟩
    next => cases h

/-- The target has no part in making a breakpoint. -/
theorem insert_with_target (m : Registry τ) (target : τ) (spec : Spec) (group : Nat)
    (configure : Breakpoint → Except Failure Breakpoint) :
    { m with target }.insert spec group configure =
      ((m.insert spec group configure).1, { (m.insert spec group configure).2 with target }) := by
  simp only [insert]
  split
  · rfl
  · split
    · rfl
    · split
      · rfl
      · rfl

end Insert

section Resolve

variable {τ : Type} [Target τ]

/-- Trying a breakpoint that is bound already does nothing. -/
theorem resolve_of_not_unbound {m : Registry τ} {id : Nat} (h : m.isUnbound id = false) :
    (m.resolve id).2 = m := by
  rw [resolve]
  split
  · rfl
  next bp hfind =>
    simp only [isUnbound, hfind, Bool.and_eq_false_iff, Bool.not_eq_false'] at h
    rcases h with hresolved | hdestroyed
    · rw [hresolved]
      split <;> rfl
    · rw [if_pos hdestroyed]

/-- What is left of the attempts to bind, one after another. -/
theorem resolveEach_snd (m : Registry τ) (ids : List Nat) :
    (m.resolveEach ids).2 = ids.foldl (fun m id => (m.resolve id).2) m := by
  induction ids generalizing m with
  | nil => rfl
  | cons id ids ih =>
      rw [resolveEach, List.foldl_cons]
      split
      next =>
        split <;> simp only [*]
      next hbound => rw [ih, resolve_of_not_unbound ((Bool.not_eq_true _).mp hbound)]

/-- Only an ambiguity keeps a specification from having a meaning or none. -/
theorem resolve_eq_error {t : τ} {spec : Spec} {e : Failure} (h : spec.resolve t = .error e) :
    ∃ className methodName candidates, e = .ambiguousOverload className methodName candidates := by
  cases spec with
  | method spec =>
      simp only [Spec.resolve, MethodSpec.resolve] at h
      split at h
      · cases h
      · split at h
        · cases h
          exact ⟨_, _, _, rfl⟩
        · cases h
  | _ => cases h

/-- A new breakpoint is taken back when it is ambiguous, and stays in all other cases. -/
theorem resolveNew_eq {m : Registry τ} {id : Nat} {bp : Breakpoint}
    (hsettings : m.settings.resolveOnCreate = true) (hfind : m.find? id = some bp)
    (hlive : bp.destroyed = false) (hunbound : bp.binding = none) :
    m.resolveNew id = match bp.spec.resolve m.target with
      | .error e => (.error e, (m.destroy id).2)
      | .ok _ => (.ok id, (m.resolve id).2) := by
  have hguard : ¬ bp.destroyed = true ∧ ¬ bp.resolved = true := by
    simp [hlive, Breakpoint.resolved, hunbound]
  rw [resolveNew, if_pos hsettings, resolve, hfind]
  dsimp only
  rw [if_neg hguard.1, if_neg hguard.2]
  cases hmeaning : bp.spec.resolve m.target with
  | error e =>
      obtain ⟨className, methodName, candidates, rfl⟩ := resolve_eq_error hmeaning
      rfl
  | ok found =>
      cases found with
      | none => rfl
      | some anchor =>
          dsimp only
          rcases Target.arm m.target (bp.requestFor anchor) with ⟨e | request, target⟩
          · rfl
          · rfl

/-- The look-ups of a registry, with the binding of one breakpoint spelled out. -/
theorem find?_eq_ite {τ : Type} {m : Registry τ} {id : Nat} {bp : Breakpoint}
    (hfind : m.find? id = some bp) (j : Nat) :
    m.find? j = if j = id then some { bp with binding := bp.binding } else m.find? j := by
  split
  next heq => rw [heq, hfind]
  next => rfl

/-- Trying to bind a breakpoint changes its binding, if anything. -/
theorem find?_resolve {m : Registry τ} {id : Nat} {bp : Breakpoint} (hfind : m.find? id = some bp) :
    ∃ binding, ∀ j, (m.resolve id).2.find? j =
      if j = id then some { bp with binding } else m.find? j := by
  have hsame := find?_eq_ite hfind
  rw [resolve, hfind]
  dsimp only
  split
  · exact ⟨bp.binding, hsame⟩
  split
  · exact ⟨bp.binding, hsame⟩
  split
  · exact ⟨bp.binding, hsame⟩
  · exact ⟨bp.binding, hsame⟩
  next anchor _ =>
    split
    · exact ⟨bp.binding, hsame⟩
    next request target _ => exact ⟨some ⟨request, anchor, false⟩, find?_of_insert rfl⟩

/-- Binding does not touch the groups. -/
theorem resolve_groups (m : Registry τ) (id : Nat) : (m.resolve id).2.groups = m.groups := by
  simp only [resolve]
  repeat' split
  all_goals rfl

/-- A new breakpoint that stays is as it was made, but for its binding. -/
theorem resolveNew_eq_ok {m m' : Registry τ} {id j : Nat} {bp : Breakpoint}
    (hfind : m.find? id = some bp) (h : m.resolveNew id = (.ok j, m')) :
    j = id ∧ m'.groups = m.groups ∧ ∃ binding, ∀ k, m'.find? k =
      if k = id then some { bp with binding } else m.find? k := by
  rw [resolveNew] at h
  split at h
  · split at h
    · cases h
    next heq =>
      cases h
      have hafter : m' = (m.resolve id).2 := (congrArg Prod.snd heq).symm
      rw [hafter]
      exact ⟨rfl, resolve_groups m id, find?_resolve hfind⟩
  · cases h
    exact ⟨rfl, rfl, bp.binding, find?_eq_ite hfind⟩

end Resolve

end Breakpoints.Registry
