import Breakpoints.Proofs.GroupTree.Edits
import Breakpoints.Proofs.Walk

/-!
The two ways through the tree.  The walk downward comes to a group exactly if the walk upward from
it comes back; it lists what is below a group in one block, child after child.  Neither has to
remember where it was: both end because the groups form a tree.
-/

namespace Breakpoints.GroupTree

variable {t : GroupTree}

/-- Where the walk upward goes on from a group. -/
def upward (t : GroupTree) : Ways Nat Nat := fun group =>
  (t.find? group).map fun g => (group, g.parent.toList)

/-- Where the walk downward goes on from a group. -/
def downward (t : GroupTree) : Ways Nat Nat := fun group =>
  (t.find? group).map fun g => (group, g.children)

theorem upward_eq {group : Nat} {link : Option Nat} (h : t.parentOf? group = some link) :
    t.upward group = some (group, link.toList) := by
  obtain ⟨g, hg, hlink⟩ := Option.map_eq_some_iff.mp h
  rw [upward, hg, Option.map_some, hlink]

/-- The walk upward takes a turn for each group on the way. -/
theorem Climb.walks {group : Nat} {line : List Nat} (h : t.Climb group line) :
    Walks t.upward line.length [group] line := by
  induction h with
  | top htop => exact .single (upward_eq htop) .nil
  | up hup _ ih => exact .single (upward_eq hup) ih

theorem downward_eq {group : Nat} (hgroup : t.contains group = true) :
    t.downward group = some (group, t.childrenOf group) := by
  obtain ⟨g, hg⟩ := contains_eq_true_iff.mp hgroup
  rw [downward, childrenOf, hg]
  rfl

section Downward

variable (ht : t.Shaped)

include ht

/-- With a step for each group that there is to find, the walk downward comes to its end. -/
theorem walks_subtreeFrom {fuel : Nat} {stack : List Nat}
    (hstack : ∀ s ∈ stack, t.contains s = true) (hapart : t.Apart stack)
    (hfuel : (t.below stack).length ≤ fuel) :
    Walks t.downward (t.subtreeFrom fuel stack).length stack.reverse
      (t.subtreeFrom fuel stack) := by
  induction fuel generalizing stack with
  | zero =>
      cases stack with
      | nil => exact .nil
      | cons group stack =>
          have hsmaller := length_below_children_lt ht (hstack group List.mem_cons_self) hapart
          omega
  | succ fuel ih =>
      cases stack with
      | nil => exact .nil
      | cons group stack =>
          rw [List.forall_mem_cons] at hstack
          obtain ⟨g, hg⟩ := contains_eq_true_iff.mp hstack.1
          have hchildren : g.children = t.childrenOf group := by rw [childrenOf, hg]; rfl
          have hsmaller := length_below_children_lt ht hstack.1 hapart
          simp only [subtreeFrom, hg, List.length_cons, hchildren]
          refine .cons (downward_eq hstack.1) ?_
          exact ih (contains_of_mem_children_append ht hstack.2) (hapart.children ht hstack.2)
            (by omega)

/-- The walk downward takes a turn for each group that it finds. -/
theorem walks_subtree {group : Nat} (hgroup : t.contains group = true) :
    Walks t.downward (t.subtree group).length [group] (t.subtree group) :=
  walks_subtreeFrom ht (by simpa using hgroup) (List.pairwise_singleton _ _)
    (length_below_le_size t _)

/-- A group comes first, and then what is below each of its children, child after child. -/
theorem subtree_eq {group : Nat} (hgroup : t.contains group = true) :
    t.subtree group = group :: (t.childrenOf group).flatMap t.subtree := by
  have hchildren : ∀ child ∈ t.childrenOf group,
      ∃ turns, Walks t.downward turns [child] (t.subtree child) :=
    fun child hchild => ⟨_, walks_subtree ht (contains_of_parentOf? ((ht.linked _ _).mp hchild))⟩
  obtain ⟨turns, hbelow⟩ := Walks.flatMap hchildren
  exact ((walks_subtree ht hgroup).unique (.single (downward_eq hgroup) hbelow)).2

/-- What is below a group stands together wherever the group is listed. -/
theorem subtree_together {group x : Nat} (hgroup : t.contains group = true)
    (hx : x ∈ t.subtree group) : t.subtree x <:+: t.subtree group := by
  obtain ⟨hthere, habove⟩ := (mem_subtree_iff ht hgroup x).mp hx
  have hclimb := ht.climb hthere
  -- up the line from `x`: at each step the block lies in that of the parent
  clear hx
  generalize t.ancestors x = line at hclimb habove
  induction hclimb with
  | top _ =>
      obtain rfl : group = root := List.mem_singleton.mp habove
      exact List.infix_refl _
  | @up low parent line hup hrest ih =>
      rcases List.mem_cons.mp habove with rfl | hlater
      · exact List.infix_refl _
      · have hlisted : low ∈ t.childrenOf parent := (ht.linked _ _).mpr hup
        have hparent := subtree_eq ht hrest.contains
        have hchild : t.subtree low <:+: t.subtree parent := by
          rw [hparent]
          exact (List.infix_flatMap_of_mem hlisted t.subtree).trans (List.suffix_cons _ _).isInfix
        exact hchild.trans (ih hrest.contains hlater)

/-- Every group but the first stands behind its parent. -/
theorem parent_sublist_subtree {group x : Nat} (hgroup : t.contains group = true)
    (hx : x ∈ t.subtree group) (hne : x ≠ group) :
    ∃ parent, t.parentOf? x = some (some parent) ∧
      [parent, x].Sublist (t.subtree group) := by
  obtain ⟨hthere, habove⟩ := (mem_subtree_iff ht hgroup x).mp hx
  obtain ⟨line, hclimb⟩ := ht.climbs x hthere
  rw [hclimb.ancestors_eq] at habove
  cases hclimb with
  | top _ => exact absurd (List.mem_singleton.mp habove).symm hne
  | @up _ parent line hup hrest =>
      have hlater : group ∈ line := (List.mem_cons.mp habove).resolve_left (Ne.symm hne)
      have hparent : parent ∈ t.subtree group := by
        rw [mem_subtree_iff ht hgroup, hrest.ancestors_eq]
        exact ⟨hrest.contains, hlater⟩
      have hbelow : x ∈ (t.childrenOf parent).flatMap t.subtree := by
        refine List.mem_flatMap.mpr ⟨x, (ht.linked _ _).mpr hup, ?_⟩
        rw [subtree_eq ht hthere]
        exact List.mem_cons_self
      -- the block of the parent begins with the parent, and `x` is further on in it
      refine ⟨parent, hup, .trans ?_ (subtree_together ht hgroup hparent).sublist⟩
      rw [subtree_eq ht hrest.contains]
      exact (List.singleton_sublist.mpr hbelow).cons_cons parent

end Downward

/-- The way up ends at the root. -/
theorem Climb.getLast?_eq {group : Nat} {line : List Nat} (h : t.Climb group line) :
    line.getLast? = some root := by
  induction h with
  | top _ => rfl
  | up _ hrest ih => rw [List.getLast?_cons_of_ne_nil (List.ne_nil_of_mem hrest.mem_self), ih]

/-- After any row of edits the two walks agree.  The walk downward from a group takes one turn for
each group that it lists and ends; it lists no group twice, first the group itself and then what is
below each child, child after child.  Every other group comes behind its parent, and what is below
a group stands in one block, in the same way.  The walk upward takes one turn for each group on the
way and ends at the root, passing no group twice.  One walk leads from `group` to `x` exactly if the
other leads from `x` to `group`. -/
theorem edited_traversals (edits : List Edit) {group x : Nat}
    (hgroup : (initial.edited edits).contains group = true)
    (hx : (initial.edited edits).contains x = true) :
    let t := initial.edited edits
    Walks t.downward (t.subtree group).length [group] (t.subtree group) ∧
    (t.subtree group).Nodup ∧
    t.subtree group = group :: (t.childrenOf group).flatMap t.subtree ∧
    (∀ y ∈ t.subtree group, y ≠ group → ∃ parent, t.parentOf? y = some (some parent) ∧
      [parent, y].Sublist (t.subtree group)) ∧
    (∀ y ∈ t.subtree group, t.subtree y = y :: (t.childrenOf y).flatMap t.subtree ∧
      t.subtree y <:+: t.subtree group) ∧
    Walks t.upward (t.ancestors x).length [x] (t.ancestors x) ∧
    (t.ancestors x).getLast? = some root ∧
    (t.ancestors x).Nodup ∧
    (x ∈ t.subtree group ↔ group ∈ t.ancestors x) := by
  intro t
  have ht : t.Shaped := (Shaped.initial.edited edits).1
  have hclimb := ht.climb hx
  refine ⟨walks_subtree ht hgroup, subtree_nodup ht hgroup, subtree_eq ht hgroup,
    fun y => parent_sublist_subtree ht hgroup, ?_, hclimb.walks, hclimb.getLast?_eq, hclimb.nodup,
    ?_⟩
  · intro y hy
    have hthere : t.contains y = true := ((mem_subtree_iff ht hgroup y).mp hy).1
    exact ⟨subtree_eq ht hthere, subtree_together ht hgroup hy⟩
  · rw [mem_subtree_iff ht hgroup]
    exact and_iff_right hx

/-- The branch below `c`, put together by moves and then moved as a whole. -/
theorem edited_traversals_moved :
    let t := initial.edited [.create "a" root, .create "b" root, .create "c" 2, .create "d" 2,
      .create "e" 1, .move 1 3, .move 2 5, .remove 4, .move 3 root]
    t.subtree 3 = [3, 1, 5] ∧ t.ancestors 5 = [5, 1, 3, root] ∧
    Walks t.downward 3 [3] [3, 1, 5] ∧ Walks t.upward 4 [5] [5, 1, 3, root] ∧
    (5 ∈ t.subtree 3 ↔ 3 ∈ t.ancestors 5) := by
  intro t
  have hdown : t.subtree 3 = [3, 1, 5] := by decide +kernel
  have hup : t.ancestors 5 = [5, 1, 3, root] := by decide +kernel
  obtain ⟨hbelow, -, -, -, -, habove, -, -, hagree⟩ :=
    edited_traversals [.create "a" root, .create "b" root, .create "c" 2, .create "d" 2,
      .create "e" 1, .move 1 3, .move 2 5, .remove 4, .move 3 root]
      (show t.contains 3 = true by decide +kernel) (show t.contains 5 = true by decide +kernel)
  change Walks t.downward (t.subtree 3).length [3] (t.subtree 3) at hbelow
  change Walks t.upward (t.ancestors 5).length [5] (t.ancestors 5) at habove
  rw [hdown] at hbelow
  rw [hup] at habove
  exact ⟨hdown, hup, hbelow, habove, hagree⟩

end Breakpoints.GroupTree
