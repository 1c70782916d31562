import Breakpoints.Proofs.GroupTree.Subtree

/-!
Flags of groups.  A flag is set in one group and counts for all below it: whether the way up from a
group is enabled depends on the flags of the groups on it, and on nothing else.
-/

namespace Breakpoints.GroupTree

variable {t t' : GroupTree}

theorem isEnabled_eq_any (t : GroupTree) (group : Nat) :
    t.isEnabled group = (t.find? group).any (·.enabled) := by
  rw [isEnabled]
  split
  next hnone => rw [hnone, Option.any_none]
  next g hg => rw [hg, Option.any_some]

theorem contains_of_isEnabled {group : Nat} (h : t.isEnabled group = true) :
    t.contains group = true := by
  rw [isEnabled_eq_any, Option.any_eq_true] at h
  obtain ⟨g, hg, -⟩ := h
  exact contains_eq_true_iff.mpr ⟨g, hg⟩

theorem isEnabled_modify_of_same (t : GroupTree) (k : Nat) {f : Group → Group}
    (hf : ∀ g, (f g).enabled = g.enabled) (j : Nat) :
    (t.modify k f).isEnabled j = t.isEnabled j := by
  rw [isEnabled_eq_any, isEnabled_eq_any, find?_modify]
  split
  next heq => simp only [heq, Option.any_map, hf]
  next => rfl

theorem isEnabled_removeMember (t : GroupTree) (group id j : Nat) :
    (t.removeMember group id).2.isEnabled j = t.isEnabled j := by
  rw [removeMember]
  exact isEnabled_modify_of_same t group (f := fun g => { g with members := g.members.remove id })
    (fun _ => rfl) j

section SetEnabled

variable {group : Nat} {enabled : Bool}

theorem setEnabled_of_contains (h : t.contains group = true) :
    t.setEnabled group enabled = .ok (t.modify group fun g => { g with enabled }) := by
  rw [setEnabled, if_pos h]

theorem exists_setEnabled (h : t.contains group = true) (enabled : Bool) :
    ∃ t', t.setEnabled group enabled = .ok t' :=
  ⟨_, setEnabled_of_contains h⟩

theorem contains_of_setEnabled (h : t.setEnabled group enabled = .ok t') :
    t.contains group = true := by
  rw [setEnabled] at h
  split at h
  next hgroup => exact hgroup
  next => contradiction

/-- Only the flag of the group itself is set. -/
theorem isEnabled_setEnabled (h : t.setEnabled group enabled = .ok t') (j : Nat) :
    t'.isEnabled j = if j = group then enabled else t.isEnabled j := by
  have hgroup : t.contains group = true := contains_of_setEnabled h
  obtain ⟨g, hg⟩ := contains_eq_true_iff.mp hgroup
  rw [setEnabled_of_contains hgroup] at h
  cases h
  rw [isEnabled_eq_any, find?_modify]
  split
  next => rw [hg, Option.map_some, Option.any_some]
  next => rw [isEnabled_eq_any]

/-- Setting a flag back to what it was brings the tree back. -/
theorem setEnabled_back (h : t.setEnabled group enabled = .ok t') :
    t'.setEnabled group (t.isEnabled group) = .ok t := by
  have hgroup : t.contains group = true := contains_of_setEnabled h
  have hkept : t'.contains group = true := (SameShape.setEnabled h).contains group ▸ hgroup
  obtain ⟨g, hg⟩ := contains_eq_true_iff.mp hgroup
  have hflag : t.isEnabled group = g.enabled := by
    rw [isEnabled_eq_any, hg, Option.any_some]
  rw [setEnabled_of_contains hkept, hflag]
  rw [setEnabled_of_contains hgroup] at h
  cases h
  congr 1
  have hgroups : ((t.groups.modify group fun g => { g with enabled }).modify group
      fun found => { found with enabled := g.enabled }) = t.groups := by
    apply Table.ext_find?
    intro j
    have hfound : t.groups.find? group = some g := hg
    simp only [Table.find?_modify, ↓reduceIte]
    split
    next heq => rw [heq, hfound]; rfl
    next => rfl
  simp only [modify, hgroups]

end SetEnabled

/-- A group that keeps its place, its flag and its members is the same group. -/
theorem SameShape.find?_eq (h : SameShape t t') {k : Nat}
    (hflag : t'.isEnabled k = t.isEnabled k)
    (hmembers : ∀ id, t'.isMember k id = t.isMember k id) : t'.find? k = t.find? k := by
  have hname := h.nameOf? k
  have hparent := h.parentOf? k
  have hchildren := h.childrenOf k
  simp only [GroupTree.nameOf?, GroupTree.parentOf?, GroupTree.childrenOf]
    at hname hparent hchildren
  cases hfind : t.find? k with
  | none => simpa [hfind] using hparent
  | some g =>
      cases hfind' : t'.find? k with
      | none => simp [hfind, hfind'] at hparent
      | some g' =>
          have hset : g'.members = g.members :=
            IdSet.ext_has fun id => by simpa [isMember, hfind, hfind'] using hmembers id
          simp only [isEnabled, hfind, hfind', Option.map_some, Option.some.injEq,
            Option.getD_some] at hname hflag hparent hchildren
          cases g
          cases g'
          simp only at hname hflag hparent hchildren hset
          subst hname hflag hparent hchildren hset
          rfl

/-- Trees of one shape differ in flags or members, or not at all. -/
theorem SameShape.eq (h : SameShape t t') (hflags : ∀ group, t'.isEnabled group = t.isEnabled group)
    (hmembers : ∀ group id, t'.isMember group id = t.isMember group id) : t' = t := by
  have hgroups : t'.groups = t.groups :=
    Table.ext_find? fun k => h.find?_eq (hflags k) (hmembers k)
  have hnext : t'.nextId = t.nextId := h.nextId
  cases t
  cases t'
  rw [mk.injEq]
  exact ⟨hgroups, hnext⟩

section Chain

/-- The way up is enabled if every group on it is. -/
theorem chainEnabled_eq_true_iff (ht : t.Shaped) {group : Nat} :
    t.chainEnabled group = true ↔
      ∃ line, t.Climb group line ∧ ∀ x ∈ line, t.isEnabled x = true := by
  rw [chainEnabled, Bool.and_eq_true, List.all_eq_true]
  constructor
  · rintro ⟨hgroup, hall⟩
    exact ⟨t.ancestors group, ht.climb hgroup, hall⟩
  · rintro ⟨line, hclimb, hall⟩
    rw [hclimb.ancestors_eq]
    exact ⟨hclimb.contains, hall⟩

theorem SameShape.climb_iff (h : SameShape t t') {group : Nat} {line : List Nat} :
    t'.Climb group line ↔ t.Climb group line :=
  ⟨fun hclimb => hclimb.congr fun x _ => (h.parentOf? x).symm,
    fun hclimb => hclimb.congr fun x _ => h.parentOf? x⟩

/-- A way up counts as before if all flags on it are as before. -/
theorem SameShape.chainEnabled_eq (h : SameShape t t') (ht : t.Shaped) {group : Nat}
    (hflags : ∀ x ∈ t.ancestors group, t'.isEnabled x = t.isEnabled x) :
    t'.chainEnabled group = t.chainEnabled group := by
  rw [Bool.eq_iff_iff, chainEnabled_eq_true_iff ht, chainEnabled_eq_true_iff (ht.sameShape h)]
  refine exists_congr fun line => ?_
  rw [h.climb_iff]
  refine and_congr_right fun hclimb => forall₂_congr fun x hx => ?_
  rw [hflags x (hclimb.ancestors_eq.symm ▸ hx)]

/-- Nothing is below a group that is not there. -/
theorem subtree_of_not_contains {group : Nat} (h : t.contains group = false) :
    t.subtree group = [] := by
  have hnone : t.find? group = none := Table.contains_eq_false_iff.mp h
  rw [subtree]
  cases t.groups.size with
  | zero => rfl
  | succ fuel => simp only [subtreeFrom, hnone]; cases fuel <;> rfl

variable {group : Nat} {enabled : Bool}

/-- A disabled group takes every group below it out of force. -/
theorem chainEnabled_of_disabled (ht : t.Shaped) (h : t.setEnabled group false = .ok t') {x : Nat}
    (hx : x ∈ t.subtree group) : t'.chainEnabled x = false := by
  obtain ⟨-, habove⟩ := (mem_subtree_iff ht (contains_of_setEnabled h) x).mp hx
  have hshape : SameShape t t' := .setEnabled h
  rw [← Bool.not_eq_true, chainEnabled_eq_true_iff (ht.sameShape hshape)]
  rintro ⟨line, hclimb, hall⟩
  rw [hshape.climb_iff] at hclimb
  have henabled := hall group (hclimb.ancestors_eq ▸ habove)
  rw [isEnabled_setEnabled h, if_pos rfl] at henabled
  contradiction

/-- The flag of a group means nothing to the groups that are not below it. -/
theorem chainEnabled_of_not_mem (ht : t.Shaped) (h : t.setEnabled group enabled = .ok t') {x : Nat}
    (hx : x ∉ t.subtree group) : t'.chainEnabled x = t.chainEnabled x := by
  have hshape : SameShape t t' := .setEnabled h
  cases hthere : t.contains x with
  | false =>
      rw [chainEnabled, chainEnabled, hshape.contains, hthere, Bool.false_and, Bool.false_and]
  | true =>
      refine hshape.chainEnabled_eq ht fun y hy => ?_
      rw [isEnabled_setEnabled h, if_neg]
      rintro rfl
      exact hx ((mem_subtree_iff ht (contains_of_setEnabled h) x).mpr ⟨hthere, hy⟩)

end Chain

end Breakpoints.GroupTree
