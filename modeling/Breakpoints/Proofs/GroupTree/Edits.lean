import Breakpoints.Proofs.Attempt
import Breakpoints.Proofs.GroupTree.InPlace

/-!
Rows of edits.  Whatever is asked of the groups, in whatever order and with whatever failures, they
form a tree, and the id of a group that has gone is never used again.
-/

namespace Breakpoints.GroupTree

variable {t t' : GroupTree}

/-- What can be asked of the groups. -/
inductive Edit where
  | create (name : String) (parent : Nat)
  | move (group parent : Nat)
  | moveMember (id : Nat) (source : Option Nat) (group : Nat)
  | removeMember (group id : Nat)
  | setEnabled (group : Nat) (enabled : Bool)
  | ensurePath (path : String)
  | remove (group : Nat)

/-- An edit as it is carried out, without its answer. -/
def Edit.steps : Edit → InPlace Unit
  | .create name parent => do let _ ← InPlace.create name parent
  | .move group parent => InPlace.move group parent
  | .moveMember id source group => InPlace.moveMember id source group
  | .removeMember group id => do let _ ← InPlace.removeMember group id
  | .setEnabled group enabled => InPlace.setEnabled group enabled
  | .ensurePath path => do let _ ← InPlace.ensurePath path
  | .remove group => do let _ ← InPlace.remove group

/-- The tree after an edit that succeeds. -/
def edit (t : GroupTree) : Edit → Except Failure GroupTree
  | .create name parent => (t.create name parent).map (·.2)
  | .move group parent => t.move group parent
  | .moveMember id source group => t.moveMember id source group
  | .removeMember group id => .ok (t.removeMember group id).2
  | .setEnabled group enabled => t.setEnabled group enabled
  | .ensurePath path => (t.ensurePath path).map (·.2)
  | .remove group => (t.remove group).map (·.2)

/-- The tree after a row of edits, of which any may fail. -/
def edited (t : GroupTree) (edits : List Edit) : GroupTree :=
  edits.foldl (fun t e => (e.steps.on t).2) t

/-- No id comes back: what has an id that was given out before was there before. -/
structure Forward (t t' : GroupTree) : Prop where
  nextId_le : t.nextId ≤ t'.nextId
  contains : ∀ group, group < t.nextId → t'.contains group = true → t.contains group = true

namespace Forward

theorem refl (t : GroupTree) : Forward t t :=
  ⟨Nat.le_refl _, fun _ _ hgroup => hgroup⟩

theorem trans {t'' : GroupTree} (h : Forward t t') (h' : Forward t' t'') : Forward t t'' where
  nextId_le := Nat.le_trans h.nextId_le h'.nextId_le
  contains group hlt hgroup :=
    h.contains group hlt (h'.contains group (Nat.lt_of_lt_of_le hlt h.nextId_le) hgroup)

theorem of_contains (hnext : t'.nextId = t.nextId)
    (hcontains : ∀ group, t'.contains group = true → t.contains group = true) : Forward t t' :=
  ⟨Nat.le_of_eq hnext.symm, fun group _ => hcontains group⟩

theorem sameShape (h : SameShape t t') : Forward t t' :=
  of_contains h.nextId fun group hgroup => h.contains group ▸ hgroup

theorem create {name : String} {parent group : Nat} (h : t.create name parent = .ok (group, t')) :
    Forward t t' where
  nextId_le := by
    rw [nextId_create h]
    exact Nat.le_succ _
  contains x hlt hx := by
    rw [contains_eq_isSome_parentOf?, parentOf?_create h, if_neg (Nat.ne_of_lt hlt)] at hx
    rwa [contains_eq_isSome_parentOf?]

theorem reshaped (h : Reshaped t t') : Forward t t' := by
  cases h with
  | create hcreate => exact create hcreate
  | move hmove =>
      exact of_contains (nextId_move hmove) fun group hgroup =>
        Shaped.contains_move hmove group ▸ hgroup
  | setEnabled hset => exact sameShape (.setEnabled hset)

theorem remove {group : Nat} {orphans : List Nat} (h : t.remove group = .ok (orphans, t')) :
    Forward t t' := by
  refine of_contains (nextId_remove h) fun x hx => ?_
  rw [contains_eq_isSome_parentOf?, parentOf?_remove h] at hx
  split at hx
  · contradiction
  · rwa [contains_eq_isSome_parentOf?]

end Forward

section Edit

/-- An edit that fails leaves the tree as it was. -/
theorem Shaped.steps_on (ht : t.Shaped) (e : Edit) :
    e.steps.on t = t.settle ((t.edit e).map ((), ·)) := by
  cases e with
  | create name parent =>
      rw [Edit.steps, InPlace.on_bind, InPlace.create_on, edit]
      cases t.create name parent <;> rfl
  | move group parent => exact InPlace.move_on ht group parent
  | moveMember id source group => exact InPlace.moveMember_on t id source group
  | removeMember group id =>
      rw [Edit.steps, InPlace.on_bind, InPlace.removeMember_on, edit]
      rfl
  | setEnabled group enabled => exact InPlace.setEnabled_on t group enabled
  | ensurePath path =>
      rw [Edit.steps, InPlace.on_bind, InPlace.ensurePath_on ht, edit]
      cases t.ensurePath path <;> rfl
  | remove group =>
      rw [Edit.steps, InPlace.on_bind, InPlace.remove_on ht, edit]
      cases t.remove group <;> rfl

theorem Shaped.reshapedEach (ht : t.Shaped) (h : Relation.ReflTransGen Reshaped t t') :
    t'.Shaped ∧ Forward t t' := by
  induction h with
  | refl => exact ⟨ht, .refl t⟩
  | tail _ hreshaped ih => exact ⟨ih.1.reshaped hreshaped, ih.2.trans (.reshaped hreshaped)⟩

/-- An edit that succeeds leaves a tree. -/
theorem Shaped.edit (ht : t.Shaped) {e : Edit} (h : t.edit e = .ok t') :
    t'.Shaped ∧ Forward t t' := by
  cases e with
  | create name parent =>
      obtain ⟨⟨group, _⟩, hcreate, rfl⟩ := exists_of_map_eq_ok h
      exact ⟨ht.create hcreate, .create hcreate⟩
  | move group parent => exact ⟨ht.move h, .reshaped (.move h)⟩
  | moveMember id source group => exact ⟨ht.sameShape (.moveMember h), .sameShape (.moveMember h)⟩
  | removeMember group id =>
      cases h
      have hsame : SameShape t (t.removeMember group id).2 := .removeMember t group id
      exact ⟨ht.sameShape hsame, .sameShape hsame⟩
  | setEnabled group enabled => exact ⟨ht.sameShape (.setEnabled h), .sameShape (.setEnabled h)⟩
  | ensurePath path =>
      obtain ⟨⟨group, _⟩, hpath, rfl⟩ := exists_of_map_eq_ok h
      exact ht.reshapedEach (ensurePath_reshaped hpath)
  | remove group =>
      obtain ⟨⟨orphans, _⟩, hremove, rfl⟩ := exists_of_map_eq_ok h
      exact ⟨ht.remove hremove, .remove hremove⟩

theorem Shaped.edited (ht : t.Shaped) (edits : List Edit) :
    (t.edited edits).Shaped ∧ Forward t (t.edited edits) := by
  induction edits generalizing t with
  | nil => exact ⟨ht, .refl t⟩
  | cons e edits ih =>
      rw [GroupTree.edited, List.foldl_cons, ht.steps_on e]
      cases hedit : t.edit e with
      | error failure => exact ih ht
      | ok t' =>
          obtain ⟨ht', hforward⟩ := ht.edit hedit
          obtain ⟨hshaped, hlater⟩ := ih ht'
          exact ⟨hshaped, hforward.trans hlater⟩

end Edit

/-- After any row of edits the groups form a tree.  The root is there and has no parent.  Every
other group has a parent, which is there and lists it once; and whatever a group lists has this
group as its parent.  From every group the way up leads to the root and passes no group twice.  All
ids are below the next one, and an id below it without a group stays without one, whatever is edited
later.  An edit leaves what the operation says if it succeeds, and the tree as it was if it
fails. -/
theorem edited_tree (edits : List Edit) :
    let t := initial.edited edits
    t.parentOf? root = some none ∧
    (∀ group, t.contains group = true → group ≠ root → ∃ parent,
      t.parentOf? group = some (some parent) ∧ t.contains parent = true ∧
        (t.childrenOf parent).count group = 1) ∧
    (∀ parent child, child ∈ t.childrenOf parent → t.parentOf? child = some (some parent)) ∧
    (∀ group, t.contains group = true →
      t.Climb group (t.ancestors group) ∧ (t.ancestors group).Nodup) ∧
    (∀ group, t.contains group = true → group < t.nextId) ∧
    (∀ group later, group < t.nextId → t.contains group = false →
      (t.edited later).contains group = false) ∧
    (∀ e : Edit, e.steps.on t = match t.edit e with
      | .ok t' => (.ok (), t')
      | .error failure => (.error failure, t)) := by
  intro t
  have ht : t.Shaped := (Shaped.initial.edited edits).1
  refine ⟨ht.top, ?_, fun parent child => (ht.linked parent child).mp,
    fun group hgroup => ⟨ht.climb hgroup, (ht.climb hgroup).nodup⟩, ht.numbered, ?_, ?_⟩
  · intro group hgroup hroot
    obtain ⟨line, hclimb⟩ := ht.climbs group hgroup
    cases hclimb with
    | top _ => exact absurd rfl hroot
    | up hlink _ =>
        exact ⟨_, hlink, ht.contains_parent hlink,
          List.count_eq_one_of_mem (ht.nodup _) ((ht.linked _ _).mpr hlink)⟩
  · intro group later hlt hgone
    rw [← Bool.not_eq_true] at hgone ⊢
    exact fun hback => hgone ((ht.edited later).2.contains group hlt hback)
  · intro e
    rw [ht.steps_on e]
    cases t.edit e <;> rfl

end Breakpoints.GroupTree
