import Breakpoints.GroupTree
import Breakpoints.Proofs.Table
import Mathlib.Logic.Relation

/-!
Who is a member of which group.  The view `membersOf?` gives the members of each group; every
operation is described by what it does to this view.
-/

namespace Breakpoints.GroupTree

variable {t t' : GroupTree}

theorem find?_modify (t : GroupTree) (k : Nat) (f : Group → Group) (j : Nat) :
    (t.modify k f).find? j = if j = k then (t.find? k).map f else t.find? j :=
  Table.find?_modify t.groups k f j

theorem contains_eq_true_iff {group : Nat} :
    t.contains group = true ↔ ∃ g, t.find? group = some g :=
  Table.contains_eq_true_iff

/-- The members of a group, if there is such a group. -/
def membersOf? (t : GroupTree) (group : Nat) : Option IdSet :=
  (t.find? group).map (·.members)

theorem contains_eq_isSome_membersOf? (t : GroupTree) (group : Nat) :
    t.contains group = (t.membersOf? group).isSome := by
  rw [membersOf?, Option.isSome_map]
  rfl

theorem isMember_eq_any_membersOf? (t : GroupTree) (group id : Nat) :
    t.isMember group id = (t.membersOf? group).any (·.has id) := by
  rw [isMember, membersOf?]
  split
  next hnone => rw [hnone]; rfl
  next g hg => rw [hg]; rfl

theorem contains_of_isMember {group id : Nat} (h : t.isMember group id = true) :
    t.contains group = true := by
  rw [isMember_eq_any_membersOf?] at h
  rw [contains_eq_isSome_membersOf?]
  cases hmembers : t.membersOf? group with
  | none => simp [hmembers] at h
  | some members => rfl

theorem membersOf?_modify (t : GroupTree) (k : Nat) (f : Group → Group) (j : Nat) :
    (t.modify k f).membersOf? j =
      if j = k then (t.find? k).map fun g => (f g).members else t.membersOf? j := by
  rw [membersOf?, find?_modify]
  split
  next => rw [Option.map_map]; rfl
  next => rfl

/-- A change of names, flags and links leaves the members alone. -/
theorem membersOf?_modify_of_same (t : GroupTree) (k : Nat) {f : Group → Group}
    (hf : ∀ g, (f g).members = g.members) (j : Nat) :
    (t.modify k f).membersOf? j = t.membersOf? j := by
  rw [membersOf?_modify]
  split
  next heq => simp only [heq, membersOf?, hf]
  next => rfl

theorem membersOf?_create {name : String} {parent group : Nat}
    (h : t.create name parent = .ok (group, t')) (j : Nat) :
    t'.membersOf? j = if j = t.nextId then some ∅ else t.membersOf? j := by
  rw [create] at h
  split at h
  · cases h
    rw [membersOf?, find?, Table.find?_insert]
    split
    next => rfl
    next =>
      exact membersOf?_modify_of_same t parent (f := addChild t.nextId) (fun _ => rfl) j
  · contradiction

theorem nextId_create {name : String} {parent group : Nat}
    (h : t.create name parent = .ok (group, t')) : t'.nextId = t.nextId + 1 := by
  rw [create] at h
  split at h
  · cases h
    rfl
  · contradiction

/-- A move changes links only. -/
theorem membersOf?_move {group parent : Nat} (h : t.move group parent = .ok t') (j : Nat) :
    t'.membersOf? j = t.membersOf? j := by
  rw [move] at h
  split at h
  · contradiction
  split at h
  · contradiction
  next g hg =>
    split at h
    · contradiction
    split at h
    · contradiction
    cases h
    rw [membersOf?_modify_of_same _ parent (f := addChild group) fun _ => rfl]
    have hlifted : (t.modify group fun g => { g with parent := some parent }).membersOf? j =
        t.membersOf? j := by
      apply membersOf?_modify_of_same
      intro g
      rfl
    cases g.parent with
    | none => exact hlifted
    | some old =>
        rw [← hlifted]
        exact membersOf?_modify_of_same _ old (f := dropChild group) (fun _ => rfl) j

theorem nextId_move {group parent : Nat} (h : t.move group parent = .ok t') :
    t'.nextId = t.nextId := by
  rw [move] at h
  split at h
  · contradiction
  split at h
  · contradiction
  next g hg =>
    split at h
    · contradiction
    split at h
    · contradiction
    cases h
    cases g.parent <;> rfl

theorem membersOf?_setEnabled {group : Nat} {enabled : Bool}
    (h : t.setEnabled group enabled = .ok t') (j : Nat) :
    t'.membersOf? j = t.membersOf? j := by
  rw [setEnabled] at h
  split at h
  · cases h
    apply membersOf?_modify_of_same
    intro g
    rfl
  · contradiction

theorem nextId_setEnabled {group : Nat} {enabled : Bool}
    (h : t.setEnabled group enabled = .ok t') : t'.nextId = t.nextId := by
  rw [setEnabled] at h
  split at h
  · cases h
    rfl
  · contradiction

section Membership

theorem isMember_congr {group : Nat} (h : t'.membersOf? group = t.membersOf? group) (id : Nat) :
    t'.isMember group id = t.isMember group id := by
  rw [isMember_eq_any_membersOf?, isMember_eq_any_membersOf?, h]

theorem contains_congr {group : Nat} (h : t'.membersOf? group = t.membersOf? group) :
    t'.contains group = t.contains group := by
  rw [contains_eq_isSome_membersOf?, contains_eq_isSome_membersOf?, h]

theorem isMember_modify_members (t : GroupTree) (k : Nat) (f : IdSet → IdSet) (j i : Nat) :
    (t.modify k fun g => { g with members := f g.members }).isMember j i =
      if j = k then (t.membersOf? k).any fun members => (f members).has i
      else t.isMember j i := by
  rw [isMember_eq_any_membersOf?, membersOf?_modify]
  split
  next => simp only [membersOf?, Option.any_map]
  next => rw [isMember_eq_any_membersOf?]

theorem contains_modify (t : GroupTree) (k : Nat) (f : Group → Group) (j : Nat) :
    (t.modify k f).contains j = t.contains j :=
  Table.contains_modify t.groups k f j

theorem isMember_add (t : GroupTree) (k id j i : Nat) :
    (t.modify k fun g => { g with members := g.members.add id }).isMember j i =
      (t.isMember j i || (decide (j = k ∧ i = id) && t.contains k)) := by
  rw [isMember_modify_members t k fun members => members.add id]
  split
  next heq =>
    rw [heq, isMember_eq_any_membersOf?, contains_eq_isSome_membersOf?]
    cases t.membersOf? k with
    | none => simp
    | some members => simp [IdSet.has_add, Bool.or_comm]
  next hne => simp [hne]

theorem isMember_drop (t : GroupTree) (k id j i : Nat) :
    (t.modify k fun g => { g with members := g.members.remove id }).isMember j i =
      (t.isMember j i && decide (¬ (j = k ∧ i = id))) := by
  rw [isMember_modify_members t k fun members => members.remove id]
  split
  next heq =>
    rw [heq, isMember_eq_any_membersOf?]
    cases t.membersOf? k with
    | none => rfl
    | some members => simp [IdSet.has_remove, Bool.and_comm]
  next hne => simp [hne]

/-- A breakpoint that moves leaves its source and comes to its group; nobody else is affected. -/
theorem isMember_moveMember {id group : Nat} {source : Option Nat}
    (h : t.moveMember id source group = .ok t') (j i : Nat) :
    t'.isMember j i = true ↔
      (j = group ∧ i = id) ∨ (t.isMember j i = true ∧ ¬ (source = some j ∧ i = id)) := by
  unfold moveMember at h
  split at h
  next hgroup =>
    cases h
    rw [isMember_add]
    cases source with
    | none => simp [hgroup, or_comm]
    | some old =>
        rw [isMember_drop, contains_modify, hgroup]
        simp only [Bool.or_eq_true, Bool.and_eq_true, decide_eq_true_eq, and_true,
          Option.some.injEq, eq_comm (a := old)]
        exact or_comm
  next => contradiction

theorem contains_moveMember {id group : Nat} {source : Option Nat}
    (h : t.moveMember id source group = .ok t') (j : Nat) :
    t'.contains j = t.contains j := by
  unfold moveMember at h
  split at h
  · cases h
    rw [contains_modify]
    cases source with
    | none => rfl
    | some old => exact contains_modify t old _ j
  · contradiction

theorem nextId_moveMember {id group : Nat} {source : Option Nat}
    (h : t.moveMember id source group = .ok t') : t'.nextId = t.nextId := by
  unfold moveMember at h
  split at h
  · cases h
    cases source <;> rfl
  · contradiction

theorem isMember_initial (group id : Nat) : initial.isMember group id = false := by
  rw [isMember, find?, initial, Table.find?_insert]
  split
  next hnone => rfl
  next g hg =>
    split at hg
    · cases hg
      rfl
    · contradiction

theorem isMember_removeMember (t : GroupTree) (group id j i : Nat) :
    (t.removeMember group id).2.isMember j i = true ↔
      t.isMember j i = true ∧ ¬ (j = group ∧ i = id) := by
  rw [removeMember, isMember_drop, Bool.and_eq_true, decide_eq_true_iff]

/-- In a group that is not there nobody has a membership to end. -/
theorem removeMember_of_not_contains {group : Nat} (h : t.contains group = false) (id : Nat) :
    (t.removeMember group id).2 = t := by
  have hnone : t.groups.find? group = none := Table.contains_eq_false_iff.mp h
  rw [removeMember, modify, Table.modify, hnone]

end Membership

section Removal

/-- What a removal leaves: the groups of the subtree are gone, and the others keep their
members. -/
theorem membersOf?_remove {group : Nat} {orphans : List Nat}
    (h : t.remove group = .ok (orphans, t')) (j : Nat) :
    t'.membersOf? j = if j ∈ t.subtree group then none else t.membersOf? j := by
  rw [remove] at h
  split at h
  · contradiction
  split at h
  · contradiction
  next g hg =>
    cases h
    rw [membersOf?, find?, Table.find?_foldl_erase]
    split
    next => rfl
    next =>
      cases g.parent with
      | none => rfl
      | some parent =>
          exact membersOf?_modify_of_same t parent (f := dropChild group) (fun _ => rfl) j

theorem nextId_remove {group : Nat} {orphans : List Nat}
    (h : t.remove group = .ok (orphans, t')) : t'.nextId = t.nextId := by
  rw [remove] at h
  split at h
  · contradiction
  split at h
  · contradiction
  next g hg =>
    cases h
    cases g.parent <;> rfl

theorem isMember_remove {group : Nat} {orphans : List Nat}
    (h : t.remove group = .ok (orphans, t')) (j i : Nat) :
    t'.isMember j i = true ↔ j ∉ t.subtree group ∧ t.isMember j i = true := by
  rw [isMember_eq_any_membersOf?, isMember_eq_any_membersOf?, membersOf?_remove h]
  split
  next hdoomed => simp [hdoomed]
  next hkept => simp [hkept]

/-- The orphans are the members of the groups that go. -/
theorem mem_orphans_iff {group : Nat} {orphans : List Nat}
    (h : t.remove group = .ok (orphans, t')) (id : Nat) :
    id ∈ orphans ↔ ∃ j ∈ t.subtree group, t.isMember j id = true := by
  rw [remove] at h
  split at h
  · contradiction
  split at h
  · contradiction
  next g hg =>
    cases h
    rw [List.mem_flatMap]
    refine exists_congr fun j => and_congr_right fun _ => ?_
    rw [isMember]
    cases hfind : t.find? j with
    | none => simp
    | some found => simp [IdSet.mem_toList]

end Removal

/-- Ids of groups are below the next one to be given out. -/
def Numbered (t : GroupTree) : Prop :=
  ∀ group, t.contains group = true → group < t.nextId

theorem initial_numbered : initial.Numbered := by
  intro group hgroup
  rw [contains, initial, Table.contains_insert] at hgroup
  by_cases hroot : group = root
  · rw [hroot]
    decide
  · simp [hroot, Table.contains, Table.find?_empty] at hgroup

theorem Numbered.of_contains (ht : t.Numbered) (hnext : t'.nextId = t.nextId)
    (hcontains : ∀ group, t'.contains group = true → t.contains group = true) : t'.Numbered := by
  intro group hgroup
  rw [hnext]
  exact ht group (hcontains group hgroup)

theorem Numbered.moveMember (ht : t.Numbered) {id group : Nat} {source : Option Nat}
    (h : t.moveMember id source group = .ok t') : t'.Numbered :=
  ht.of_contains (nextId_moveMember h) fun j hj => contains_moveMember h j ▸ hj

theorem Numbered.removeMember (ht : t.Numbered) (group id : Nat) :
    (t.removeMember group id).2.Numbered :=
  ht.of_contains rfl fun j hj => contains_modify t group _ j ▸ hj

theorem Numbered.remove (ht : t.Numbered) {group : Nat} {orphans : List Nat}
    (h : t.remove group = .ok (orphans, t')) : t'.Numbered := by
  refine ht.of_contains (nextId_remove h) fun j hj => ?_
  rw [contains_eq_isSome_membersOf?, membersOf?_remove h] at hj
  split at hj
  · contradiction
  · rwa [contains_eq_isSome_membersOf?]

/-- The operations that change names, flags and links, and no membership. -/
inductive Reshaped (t : GroupTree) : GroupTree → Prop where
  | create {name : String} {parent group : Nat} {t' : GroupTree} :
      t.create name parent = .ok (group, t') → Reshaped t t'
  | move {group parent : Nat} {t' : GroupTree} :
      t.move group parent = .ok t' → Reshaped t t'
  | setEnabled {group : Nat} {enabled : Bool} {t' : GroupTree} :
      t.setEnabled group enabled = .ok t' → Reshaped t t'

theorem Reshaped.numbered (h : Reshaped t t') (ht : t.Numbered) : t'.Numbered := by
  intro group hgroup
  cases h with
  | create hcreate =>
      rw [nextId_create hcreate]
      rw [contains_eq_isSome_membersOf?, membersOf?_create hcreate] at hgroup
      split at hgroup
      next heq => omega
      next =>
        rw [← contains_eq_isSome_membersOf?] at hgroup
        exact Nat.lt_succ_of_lt (ht group hgroup)
  | move hmove =>
      exact ht.of_contains (nextId_move hmove)
        (fun j hj => contains_congr (membersOf?_move hmove j) ▸ hj) group hgroup
  | setEnabled hset =>
      exact ht.of_contains (nextId_setEnabled hset)
        (fun j hj => contains_congr (membersOf?_setEnabled hset j) ▸ hj) group hgroup

theorem Reshaped.isMember (h : Reshaped t t') (ht : t.Numbered) (group id : Nat) :
    t'.isMember group id = t.isMember group id := by
  cases h with
  | create hcreate =>
      by_cases hnew : group = t.nextId
      · -- the new group is empty, and there was none with its id before
        have hold : t.isMember group id = false := by
          by_contra hmember
          rw [Bool.not_eq_false] at hmember
          have hlt := ht group (contains_of_isMember hmember)
          omega
        rw [hold, isMember_eq_any_membersOf?, membersOf?_create hcreate, if_pos hnew]
        rfl
      · apply isMember_congr
        rw [membersOf?_create hcreate, if_neg hnew]
  | move hmove => exact isMember_congr (membersOf?_move hmove group) id
  | setEnabled hset => exact isMember_congr (membersOf?_setEnabled hset group) id

/-- Following a path creates groups and does nothing else. -/
theorem descend_reshaped {names : List String} {group found : Nat}
    (h : t.descend group names = .ok (found, t')) : Relation.ReflTransGen Reshaped t t' := by
  induction names generalizing t group with
  | nil =>
      cases h
      exact .refl
  | cons name names ih =>
      rw [descend] at h
      split at h
      next child hchild => exact ih h
      next =>
        split at h
        · contradiction
        next child grown hcreate => exact .head (.create hcreate) (ih h)

theorem ensurePath_reshaped {path : String} {found : Nat}
    (h : t.ensurePath path = .ok (found, t')) : Relation.ReflTransGen Reshaped t t' :=
  descend_reshaped h

end Breakpoints.GroupTree
