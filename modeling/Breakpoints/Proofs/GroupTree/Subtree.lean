import Breakpoints.Proofs.GroupTree.Shape

/-!
Walking down the tree.  The walk from a group finds exactly the groups whose way up passes it, so
what a removal leaves is a tree again.
-/

namespace Breakpoints.GroupTree

variable {t t' : GroupTree}

/-- Groups of which none is above another. -/
def Apart (t : GroupTree) (stack : List Nat) : Prop :=
  stack.Pairwise fun a b => a ∉ t.ancestors b ∧ b ∉ t.ancestors a

/-- The groups at or below those on a stack. -/
def below (t : GroupTree) (stack : List Nat) : List Nat :=
  t.groups.keys.filter fun x => stack.any fun s => s ∈ t.ancestors x

theorem mem_below_iff {stack : List Nat} {x : Nat} :
    x ∈ t.below stack ↔ t.contains x = true ∧ ∃ s ∈ stack, s ∈ t.ancestors x := by
  simp only [below, List.mem_filter, Table.mem_keys_iff, List.any_eq_true, decide_eq_true_eq]
  rfl

theorem below_nodup (t : GroupTree) (stack : List Nat) : (t.below stack).Nodup :=
  t.groups.keys_nodup.filter _

theorem length_below_le_size (t : GroupTree) (stack : List Nat) :
    (t.below stack).length ≤ t.groups.size := by
  have hle := List.length_filter_le (fun x => stack.any fun s => s ∈ t.ancestors x) t.groups.keys
  rwa [Table.keys, List.length_map] at hle

section Walk

variable (ht : t.Shaped)

include ht

/-- What is below a group is the group itself and what is below its children. -/
theorem mem_below_cons_iff {group : Nat} (hgroup : t.contains group = true) (stack : List Nat)
    (x : Nat) : x ∈ t.below (group :: stack) ↔
      x = group ∨ x ∈ t.below (t.childrenOf group ++ stack) := by
  simp only [mem_below_iff, List.mem_cons, List.mem_append]
  constructor
  · rintro ⟨hx, s, rfl | hs, hmem⟩
    · rcases mem_ancestors_cases ht hx hmem with heq | ⟨child, hchild, hbelow⟩
      · exact .inl heq
      · exact .inr ⟨hx, child, .inl ((ht.linked _ _).mpr hchild), hbelow⟩
    · exact .inr ⟨hx, s, .inr hs, hmem⟩
  · rintro (rfl | ⟨hx, s, hchild | hs, hmem⟩)
    · exact ⟨hgroup, x, .inl rfl, mem_ancestors_self ht hgroup⟩
    · have hparent : group ∈ t.ancestors s := by
        rw [ancestors_of_parent ht ((ht.linked _ _).mp hchild)]
        exact List.mem_cons_of_mem s (mem_ancestors_self ht hgroup)
      exact ⟨hx, group, .inl rfl, mem_ancestors_trans ht hx hmem hparent⟩
    · exact ⟨hx, s, .inr hs, hmem⟩

/-- A group is not below its children, nor below the groups it is apart from. -/
theorem not_mem_below_children {group : Nat} {stack : List Nat}
    (hapart : t.Apart (group :: stack)) :
    group ∉ t.below (t.childrenOf group ++ stack) := by
  rw [mem_below_iff]
  rintro ⟨hgroup, s, hs, hmem⟩
  rcases List.mem_append.mp hs with hchild | hstack
  · have hlink := (ht.linked _ _).mp hchild
    exact not_mem_ancestors_parent ht hlink hmem
  · exact ((List.pairwise_cons.mp hapart).1 s hstack).2 hmem

/-- Putting the children in the place of a group keeps the groups apart. -/
theorem Apart.children {group : Nat} {stack : List Nat}
    (hstack : ∀ s ∈ stack, t.contains s = true) (hapart : t.Apart (group :: stack)) :
    t.Apart (t.childrenOf group ++ stack) := by
  obtain ⟨hgroup, hrest⟩ := List.pairwise_cons.mp hapart
  refine List.pairwise_append.mpr ⟨?_, hrest, ?_⟩
  · refine (ht.nodup group).imp_of_mem ?_
    intro a b ha hb hne
    have hlinkA := (ht.linked _ _).mp ha
    have hlinkB := (ht.linked _ _).mp hb
    rw [ancestors_of_parent ht hlinkA, ancestors_of_parent ht hlinkB, List.mem_cons, List.mem_cons]
    exact ⟨fun h => h.elim hne (not_mem_ancestors_parent ht hlinkA),
      fun h => h.elim (Ne.symm hne) (not_mem_ancestors_parent ht hlinkB)⟩
  · intro a ha b hb
    have hlink := (ht.linked _ _).mp ha
    have hancestors := ancestors_of_parent ht hlink
    have hself := mem_ancestors_self ht (ht.contains_parent hlink)
    obtain ⟨hup, hdown⟩ := hgroup b hb
    constructor
    · intro hmem
      have hthrough : group ∈ t.ancestors a := by
        rw [hancestors]
        exact List.mem_cons_of_mem a hself
      exact hup (mem_ancestors_trans ht (hstack b hb) hmem hthrough)
    · rw [hancestors, List.mem_cons]
      rintro (rfl | hmem)
      · apply hup
        rw [hancestors]
        exact List.mem_cons_of_mem b hself
      · exact hdown hmem

/-- What takes the place of a group on the stack is there. -/
theorem contains_of_mem_children_append {group : Nat} {stack : List Nat}
    (hstack : ∀ s ∈ stack, t.contains s = true) :
    ∀ s ∈ t.childrenOf group ++ stack, t.contains s = true := by
  intro s hs
  rcases List.mem_append.mp hs with hchild | hrest
  · exact contains_of_parentOf? ((ht.linked _ _).mp hchild)
  · exact hstack s hrest

/-- Each step of the walk leaves less to find. -/
theorem length_below_children_lt {group : Nat} {stack : List Nat}
    (hgroup : t.contains group = true) (hapart : t.Apart (group :: stack)) :
    (t.below (t.childrenOf group ++ stack)).length < (t.below (group :: stack)).length := by
  have hnodup : (group :: t.below (t.childrenOf group ++ stack)).Nodup :=
    List.nodup_cons.mpr ⟨not_mem_below_children ht hapart, below_nodup t _⟩
  have hsubset : group :: t.below (t.childrenOf group ++ stack) ⊆ t.below (group :: stack) := by
    intro y hy
    rw [mem_below_cons_iff ht hgroup]
    exact List.mem_cons.mp hy
  exact (hnodup.subperm hsubset).length_le

/-- With a step for each group that there is to find, the walk finds them all and nothing else. -/
theorem mem_subtreeFrom_iff {fuel : Nat} {stack : List Nat}
    (hstack : ∀ s ∈ stack, t.contains s = true) (hapart : t.Apart stack)
    (hfuel : (t.below stack).length ≤ fuel) (x : Nat) :
    x ∈ t.subtreeFrom fuel stack ↔ x ∈ t.below stack := by
  induction fuel generalizing stack with
  | zero =>
      have hnone : t.below stack = [] := List.eq_nil_of_length_eq_zero (Nat.le_zero.mp hfuel)
      rw [hnone, subtreeFrom]
  | succ fuel ih =>
      cases stack with
      | nil => simp [subtreeFrom, mem_below_iff]
      | cons group stack =>
          rw [List.forall_mem_cons] at hstack
          obtain ⟨g, hg⟩ := contains_eq_true_iff.mp hstack.1
          have hchildren : g.children = t.childrenOf group := by rw [childrenOf, hg]; rfl
          have hsmaller := length_below_children_lt ht hstack.1 hapart
          simp only [subtreeFrom, hg, hchildren, List.mem_cons]
          rw [ih (contains_of_mem_children_append ht hstack.2) (hapart.children ht hstack.2)
            (by omega), mem_below_cons_iff ht hstack.1]

/-- The walk comes to no group twice. -/
theorem subtreeFrom_nodup {fuel : Nat} {stack : List Nat}
    (hstack : ∀ s ∈ stack, t.contains s = true) (hapart : t.Apart stack)
    (hfuel : (t.below stack).length ≤ fuel) : (t.subtreeFrom fuel stack).Nodup := by
  induction fuel generalizing stack with
  | zero => exact List.nodup_nil
  | succ fuel ih =>
      cases stack with
      | nil => exact List.nodup_nil
      | cons group stack =>
          rw [List.forall_mem_cons] at hstack
          obtain ⟨g, hg⟩ := contains_eq_true_iff.mp hstack.1
          have hchildren : g.children = t.childrenOf group := by rw [childrenOf, hg]; rfl
          have hcontains : ∀ s ∈ t.childrenOf group ++ stack, t.contains s = true :=
            contains_of_mem_children_append ht hstack.2
          have hapart' := hapart.children ht hstack.2
          have hsmaller := length_below_children_lt ht hstack.1 hapart
          simp only [subtreeFrom, hg, hchildren, List.nodup_cons]
          refine ⟨?_, ih hcontains hapart' (by omega)⟩
          rw [mem_subtreeFrom_iff ht hcontains hapart' (by omega)]
          exact not_mem_below_children ht hapart

/-- The subtree of a group is the groups whose way up passes it. -/
theorem mem_subtree_iff {group : Nat} (hgroup : t.contains group = true) (x : Nat) :
    x ∈ t.subtree group ↔ t.contains x = true ∧ group ∈ t.ancestors x := by
  rw [subtree, mem_subtreeFrom_iff ht (by simpa using hgroup) (List.pairwise_singleton _ _)
    (length_below_le_size t _), mem_below_iff]
  simp

theorem subtree_nodup {group : Nat} (hgroup : t.contains group = true) :
    (t.subtree group).Nodup :=
  subtreeFrom_nodup ht (by simpa using hgroup) (List.pairwise_singleton _ _)
    (length_below_le_size t _)

end Walk

section Remove

variable {group : Nat} {orphans : List Nat}

theorem remove_eq_ok (h : t.remove group = .ok (orphans, t')) :
    group ≠ root ∧ ∃ above, t.parentOf? group = some above ∧
      t' = { t.detach above group with
        groups := (t.subtree group).foldl Table.erase (t.detach above group).groups } := by
  rw [remove] at h
  split at h
  · contradiction
  next hroot =>
    split at h
    · contradiction
    next g hg =>
      cases h
      refine ⟨hroot, g.parent, by rw [parentOf?, hg, Option.map_some], ?_⟩
      cases g.parent <;> rfl

theorem find?_detach (t : GroupTree) (above : Option Nat) (group j : Nat) :
    (t.detach above group).find? j =
      (t.find? j).map fun g => if above = some j then dropChild group g else g := by
  cases above with
  | none => simp [detach]
  | some parent =>
      simp only [detach, find?_modify, Option.some.injEq, eq_comm (a := parent)]
      split
      next heq => rw [heq]
      next => rw [Option.map_id_fun', id]

/-- What a removal leaves: the groups of the subtree are gone, and the one above it no longer lists
it. -/
theorem find?_remove (h : t.remove group = .ok (orphans, t')) (j : Nat) :
    t'.find? j = if j ∈ t.subtree group then none
      else (t.find? j).map fun g =>
        if t.parentOf? group = some (some j) then dropChild group g else g := by
  obtain ⟨-, above, habove, rfl⟩ := remove_eq_ok h
  simp only [habove, Option.some.injEq]
  rw [← find?_detach, find?, Table.find?_foldl_erase]
  rfl

theorem parentOf?_remove (h : t.remove group = .ok (orphans, t')) (j : Nat) :
    t'.parentOf? j = if j ∈ t.subtree group then none else t.parentOf? j := by
  obtain ⟨-, above, -, rfl⟩ := remove_eq_ok h
  rw [← parentOf?_detach t above group, parentOf?, find?, Table.find?_foldl_erase]
  split
  · rfl
  · rfl

theorem nameOf?_remove (h : t.remove group = .ok (orphans, t')) (j : Nat) :
    t'.nameOf? j = if j ∈ t.subtree group then none else t.nameOf? j := by
  obtain ⟨-, above, -, rfl⟩ := remove_eq_ok h
  rw [← nameOf?_detach t above group, nameOf?, find?, Table.find?_foldl_erase]
  split
  · rfl
  · rfl

theorem childrenOf_remove (h : t.remove group = .ok (orphans, t')) (j : Nat) :
    t'.childrenOf j = if j ∈ t.subtree group then []
      else if t.parentOf? group = some (some j) then (t.childrenOf j).filter (· ≠ group)
      else t.childrenOf j := by
  obtain ⟨-, above, habove, rfl⟩ := remove_eq_ok h
  simp only [habove, Option.some.injEq]
  rw [← childrenOf_detach, childrenOf, find?, Table.find?_foldl_erase]
  split
  · rfl
  · rfl

/-- The orphans are listed group by group. -/
theorem orphans_eq (h : t.remove group = .ok (orphans, t')) :
    orphans = (t.subtree group).flatMap fun x => ((t.membersOf? x).map IdSet.toList).getD [] := by
  rw [remove] at h
  split at h
  · contradiction
  split at h
  · contradiction
  cases h
  refine List.flatMap_congr fun x _ => ?_
  rw [membersOf?, Option.map_map]
  rfl

/-- Where nobody is in two groups, no orphan is listed twice. -/
theorem orphans_nodup (ht : t.Shaped) (h : t.remove group = .ok (orphans, t'))
    (hsingle : ∀ x y id, t.isMember x id = true → t.isMember y id = true → x = y) :
    orphans.Nodup := by
  obtain ⟨-, above, habove, -⟩ := remove_eq_ok h
  have hmember : ∀ x id, id ∈ ((t.membersOf? x).map IdSet.toList).getD [] →
      t.isMember x id = true := by
    intro x id hid
    rw [isMember_eq_any_membersOf?]
    cases hmembers : t.membersOf? x with
    | none => simp [hmembers] at hid
    | some members => simpa [hmembers, IdSet.mem_toList] using hid
  rw [orphans_eq h, List.nodup_flatMap]
  constructor
  · intro x _
    cases t.membersOf? x with
    | none => exact List.nodup_nil
    | some members => exact members.keys_nodup
  · refine (subtree_nodup ht (contains_of_parentOf? habove)).imp fun hne => ?_
    refine List.disjoint_left.mpr fun id hx hy => ?_
    exact hne (hsingle _ _ id (hmember _ id hx) (hmember _ id hy))

/-- What is not removed keeps its whole way up. -/
theorem not_mem_subtree_of_mem_ancestors (ht : t.Shaped) (hgroup : t.contains group = true)
    {x y : Nat} (hx : t.contains x = true) (hkept : x ∉ t.subtree group)
    (hy : y ∈ t.ancestors x) : y ∉ t.subtree group := by
  rw [mem_subtree_iff ht hgroup] at hkept ⊢
  rintro ⟨-, hmem⟩
  exact hkept ⟨hx, mem_ancestors_trans ht hx hy hmem⟩

/-- A group goes if it is the one to be removed, or if the group above it goes. -/
theorem mem_subtree_of_parent (ht : t.Shaped) (hgroup : t.contains group = true)
    {child parent : Nat} (hlink : t.parentOf? child = some (some parent)) :
    child ∈ t.subtree group ↔ child = group ∨ parent ∈ t.subtree group := by
  rw [mem_subtree_iff ht hgroup, mem_subtree_iff ht hgroup, ancestors_of_parent ht hlink,
    List.mem_cons, eq_comm (a := child)]
  simp [contains_of_parentOf? hlink, ht.contains_parent hlink]

theorem linked_remove (ht : t.Shaped) (h : t.remove group = .ok (orphans, t'))
    (parent child : Nat) :
    child ∈ t'.childrenOf parent ↔ t'.parentOf? child = some (some parent) := by
  obtain ⟨-, above, habove, -⟩ := remove_eq_ok h
  have hunder : t.parentOf? child = some (some parent) →
      (child ∈ t.subtree group ↔ child = group ∨ parent ∈ t.subtree group) :=
    mem_subtree_of_parent ht (contains_of_parentOf? habove)
  rw [childrenOf_remove h, parentOf?_remove h]
  by_cases hparent : parent ∈ t.subtree group
  · rw [if_pos hparent]
    refine ⟨fun hmem => absurd hmem List.not_mem_nil, fun hlink => ?_⟩
    split at hlink
    · contradiction
    next hkept => exact absurd ((hunder hlink).mpr (.inr hparent)) hkept
  · rw [if_neg hparent, ht.mem_unlinked_iff]
    constructor
    · rintro ⟨hne, hlink⟩
      rw [if_neg fun hmem => ((hunder hlink).mp hmem).elim hne hparent, hlink]
    · intro hlink
      split at hlink
      · contradiction
      next hkept =>
        refine ⟨?_, hlink⟩
        rintro rfl
        exact hkept ((hunder hlink).mpr (.inl rfl))

theorem Shaped.remove (ht : t.Shaped) (h : t.remove group = .ok (orphans, t')) : t'.Shaped := by
  obtain ⟨hroot, above, habove, -⟩ := remove_eq_ok h
  have hgroup : t.contains group = true := contains_of_parentOf? habove
  have hrootKept : root ∉ t.subtree group := by
    rw [mem_subtree_iff ht hgroup, (Climb.top ht.top).ancestors_eq, List.mem_singleton]
    exact fun hmem => hroot hmem.2
  refine ⟨ht.numbered.remove h, ?_, ?_, ?_, linked_remove ht h, ?_⟩
  · rw [parentOf?_remove h, if_neg hrootKept, ht.top]
  · rw [nameOf?_remove h, if_neg hrootKept, ht.rootNamed]
  · intro x hx
    rw [contains_eq_isSome_parentOf?, parentOf?_remove h] at hx
    split at hx
    · contradiction
    next hkept =>
      rw [← contains_eq_isSome_parentOf?] at hx
      refine ⟨_, (ht.climb hx).congr fun y hy => ?_⟩
      rw [parentOf?_remove h,
        if_neg (not_mem_subtree_of_mem_ancestors ht hgroup hx hkept hy)]
  · intro parent
    rw [childrenOf_remove h]
    split
    · exact List.nodup_nil
    split
    · exact (ht.nodup parent).filter _
    · exact ht.nodup parent

end Remove

end Breakpoints.GroupTree
