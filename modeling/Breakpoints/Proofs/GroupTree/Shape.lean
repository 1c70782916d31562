import Breakpoints.Proofs.GroupTree.Membership
import Mathlib.Data.List.Nodup
import Mathlib.Data.List.Perm.Subperm

/-!
The groups form a tree.  From every group there is one way up, and it ends at the root; and each
group lists exactly those below it.  The views `parentOf?`, `childrenOf` and `nameOf?` give the
links and the names; every operation is described by what it does to them.
-/

namespace Breakpoints.GroupTree

variable {t t' : GroupTree}

/-- The link upward of a group, if there is such a group. -/
def parentOf? (t : GroupTree) (group : Nat) : Option (Option Nat) :=
  (t.find? group).map (·.parent)

/-- The groups that a group lists as its own. -/
def childrenOf (t : GroupTree) (group : Nat) : List Nat :=
  ((t.find? group).map (·.children)).getD []

def nameOf? (t : GroupTree) (group : Nat) : Option String :=
  (t.find? group).map (·.name)

theorem contains_eq_isSome_parentOf? (t : GroupTree) (group : Nat) :
    t.contains group = (t.parentOf? group).isSome := by
  rw [parentOf?, Option.isSome_map]
  rfl

theorem contains_of_parentOf? {group : Nat} {link : Option Nat}
    (h : t.parentOf? group = some link) : t.contains group = true := by
  rw [contains_eq_isSome_parentOf?, h]
  rfl

/-- The way up from a group to the root, both included. -/
inductive Climb (t : GroupTree) : Nat → List Nat → Prop where
  | top : t.parentOf? root = some none → Climb t root [root]
  | up {group parent : Nat} {line : List Nat} :
      t.parentOf? group = some (some parent) → Climb t parent line → Climb t group (group :: line)

namespace Climb

variable {group : Nat} {line : List Nat}

theorem unique {line' : List Nat} (h : t.Climb group line) (h' : t.Climb group line') :
    line = line' := by
  induction h generalizing line' with
  | top htop =>
      cases h' with
      | top _ => rfl
      | up hup _ =>
          rw [htop] at hup
          cases hup
  | up hup _ ih =>
      cases h' with
      | top htop =>
          rw [htop] at hup
          cases hup
      | up hup' hrest =>
          rw [hup] at hup'
          cases hup'
          rw [ih hrest]

theorem mem_self (h : t.Climb group line) : group ∈ line := by
  cases h with
  | top _ => exact List.mem_cons_self
  | up _ _ => exact List.mem_cons_self

theorem contains (h : t.Climb group line) : t.contains group = true := by
  cases h with
  | top htop => exact contains_of_parentOf? htop
  | up hup _ => exact contains_of_parentOf? hup

/-- The way up from a group on the way is the rest of the way. -/
theorem of_mem (h : t.Climb group line) {x : Nat} (hx : x ∈ line) :
    ∃ rest, t.Climb x rest ∧ rest <:+ line := by
  induction h with
  | top htop =>
      rw [List.mem_singleton] at hx
      exact ⟨[root], hx ▸ .top htop, List.suffix_refl _⟩
  | up hup hrest ih =>
      rcases List.mem_cons.mp hx with rfl | hlater
      · exact ⟨_, .up hup hrest, List.suffix_refl _⟩
      · obtain ⟨rest, hclimb, hsuffix⟩ := ih hlater
        exact ⟨rest, hclimb, hsuffix.trans (List.suffix_cons _ _)⟩

theorem contains_of_mem (h : t.Climb group line) {x : Nat} (hx : x ∈ line) :
    t.contains x = true := by
  obtain ⟨rest, hclimb, -⟩ := h.of_mem hx
  exact hclimb.contains

/-- No group is above itself: the way up from it would be longer than itself. -/
theorem nodup (h : t.Climb group line) : line.Nodup := by
  induction h with
  | top _ => exact List.nodup_singleton _
  | up hup hrest ih =>
      refine List.nodup_cons.mpr ⟨fun hmem => ?_, ih⟩
      obtain ⟨rest, hclimb, hsuffix⟩ := hrest.of_mem hmem
      have hlength := hsuffix.length_le
      rw [← Climb.unique (.up hup hrest) hclimb, List.length_cons] at hlength
      omega

/-- The way stays if the links on it stay. -/
theorem congr (h : t.Climb group line) (hlinks : ∀ x ∈ line, t'.parentOf? x = t.parentOf? x) :
    t'.Climb group line := by
  induction h with
  | top htop => exact .top ((hlinks _ List.mem_cons_self).trans htop)
  | up hup _ ih =>
      exact .up ((hlinks _ List.mem_cons_self).trans hup)
        (ih fun x hx => hlinks x (List.mem_cons_of_mem _ hx))

theorem length_le_size (h : t.Climb group line) : line.length ≤ t.groups.size := by
  have hkeys : line ⊆ t.groups.keys := fun x hx => Table.mem_keys_iff.mpr (h.contains_of_mem hx)
  have hle := (h.nodup.subperm hkeys).length_le
  rwa [Table.keys, List.length_map] at hle

theorem ancestorsFrom_eq (h : t.Climb group line) {fuel : Nat} (hfuel : line.length ≤ fuel) :
    t.ancestorsFrom fuel group = line := by
  induction h generalizing fuel with
  | top htop =>
      obtain ⟨g, hg, hparent⟩ := Option.map_eq_some_iff.mp htop
      cases fuel with
      | zero => simp at hfuel
      | succ fuel => simp only [ancestorsFrom, hg, hparent]
  | up hup _ ih =>
      obtain ⟨g, hg, hparent⟩ := Option.map_eq_some_iff.mp hup
      cases fuel with
      | zero => simp at hfuel
      | succ fuel =>
          rw [List.length_cons] at hfuel
          simp only [ancestorsFrom, hg, hparent, ih (Nat.le_of_succ_le_succ hfuel)]

/-- The walk upward goes all the way. -/
theorem ancestors_eq (h : t.Climb group line) : t.ancestors group = line :=
  h.ancestorsFrom_eq h.length_le_size

end Climb

/-- A tree of groups below one root. -/
structure Shaped (t : GroupTree) : Prop where
  numbered : t.Numbered
  top : t.parentOf? root = some none
  rootNamed : t.nameOf? root = some rootName
  climbs : ∀ group, t.contains group = true → ∃ line, t.Climb group line
  linked : ∀ parent child, child ∈ t.childrenOf parent ↔ t.parentOf? child = some (some parent)
  nodup : ∀ parent, (t.childrenOf parent).Nodup

namespace Shaped

theorem climb (ht : t.Shaped) {group : Nat} (hgroup : t.contains group = true) :
    t.Climb group (t.ancestors group) := by
  obtain ⟨line, hline⟩ := ht.climbs group hgroup
  rw [hline.ancestors_eq]
  exact hline

theorem contains_root (ht : t.Shaped) : t.contains root = true :=
  contains_of_parentOf? ht.top

/-- Each parent is there. -/
theorem contains_parent (ht : t.Shaped) {group parent : Nat}
    (h : t.parentOf? group = some (some parent)) : t.contains parent = true := by
  obtain ⟨line, hline⟩ := ht.climbs group (contains_of_parentOf? h)
  cases hline with
  | top htop =>
      rw [htop] at h
      cases h
  | up hup hrest =>
      rw [hup] at h
      cases h
      exact hrest.contains

end Shaped

section Views

theorem parentOf?_modify (t : GroupTree) (k : Nat) (f : Group → Group) (j : Nat) :
    (t.modify k f).parentOf? j =
      if j = k then (t.find? k).map fun g => (f g).parent else t.parentOf? j := by
  rw [parentOf?, find?_modify]
  split
  next => rw [Option.map_map]; rfl
  next => rfl

theorem childrenOf_modify (t : GroupTree) (k : Nat) (f : Group → Group) (j : Nat) :
    (t.modify k f).childrenOf j =
      if j = k then ((t.find? k).map fun g => (f g).children).getD [] else t.childrenOf j := by
  rw [childrenOf, find?_modify]
  split
  next => rw [Option.map_map]; rfl
  next => rfl

theorem nameOf?_modify (t : GroupTree) (k : Nat) (f : Group → Group) (j : Nat) :
    (t.modify k f).nameOf? j =
      if j = k then (t.find? k).map fun g => (f g).name else t.nameOf? j := by
  rw [nameOf?, find?_modify]
  split
  next => rw [Option.map_map]; rfl
  next => rfl

theorem parentOf?_modify_of_same (t : GroupTree) (k : Nat) {f : Group → Group}
    (hf : ∀ g, (f g).parent = g.parent) (j : Nat) :
    (t.modify k f).parentOf? j = t.parentOf? j := by
  rw [parentOf?_modify]
  split
  next heq => simp only [heq, parentOf?, hf]
  next => rfl

theorem childrenOf_modify_of_same (t : GroupTree) (k : Nat) {f : Group → Group}
    (hf : ∀ g, (f g).children = g.children) (j : Nat) :
    (t.modify k f).childrenOf j = t.childrenOf j := by
  rw [childrenOf_modify]
  split
  next heq => simp only [heq, childrenOf, hf]
  next => rfl

theorem nameOf?_modify_of_same (t : GroupTree) (k : Nat) {f : Group → Group}
    (hf : ∀ g, (f g).name = g.name) (j : Nat) :
    (t.modify k f).nameOf? j = t.nameOf? j := by
  rw [nameOf?_modify]
  split
  next heq => simp only [heq, nameOf?, hf]
  next => rfl

/-- Takes a group from the list of the one above it, if there is one. -/
def detach (t : GroupTree) (above : Option Nat) (group : Nat) : GroupTree :=
  match above with
  | none => t
  | some parent => t.modify parent (dropChild group)

theorem parentOf?_detach (t : GroupTree) (above : Option Nat) (group j : Nat) :
    (t.detach above group).parentOf? j = t.parentOf? j := by
  cases above with
  | none => rfl
  | some parent => exact parentOf?_modify_of_same t parent (f := dropChild group) (fun _ => rfl) j

theorem nameOf?_detach (t : GroupTree) (above : Option Nat) (group j : Nat) :
    (t.detach above group).nameOf? j = t.nameOf? j := by
  cases above with
  | none => rfl
  | some parent => exact nameOf?_modify_of_same t parent (f := dropChild group) (fun _ => rfl) j

theorem childrenOf_detach (t : GroupTree) (above : Option Nat) (group j : Nat) :
    (t.detach above group).childrenOf j =
      if above = some j then (t.childrenOf j).filter (· ≠ group) else t.childrenOf j := by
  cases above with
  | none => simp [detach]
  | some parent =>
      simp only [detach, childrenOf_modify, Option.some.injEq, eq_comm (a := parent)]
      split
      next heq =>
        rw [heq, childrenOf]
        cases t.find? parent with
        | none => rfl
        | some g => rfl
      next => rfl

theorem contains_detach (t : GroupTree) (above : Option Nat) (group j : Nat) :
    (t.detach above group).contains j = t.contains j := by
  rw [contains_eq_isSome_parentOf?, contains_eq_isSome_parentOf?, parentOf?_detach]

theorem childrenOf_addChild {k : Nat} (hk : t.contains k = true) (child j : Nat) :
    (t.modify k (addChild child)).childrenOf j =
      t.childrenOf j ++ if j = k then [child] else [] := by
  rw [childrenOf_modify]
  split
  next heq =>
    obtain ⟨g, hg⟩ := contains_eq_true_iff.mp hk
    simp [childrenOf, heq, hg, addChild]
  next => rw [List.append_nil]

end Views

/-- Two trees with the same groups under the same names, linked in the same way. -/
structure SameShape (t t' : GroupTree) : Prop where
  parentOf? : ∀ group, t'.parentOf? group = t.parentOf? group
  childrenOf : ∀ group, t'.childrenOf group = t.childrenOf group
  nameOf? : ∀ group, t'.nameOf? group = t.nameOf? group
  nextId : t'.nextId = t.nextId

theorem SameShape.refl (t : GroupTree) : SameShape t t :=
  ⟨fun _ => rfl, fun _ => rfl, fun _ => rfl, rfl⟩

/-- A change of one group in anything but its name and its links. -/
theorem SameShape.modify (t : GroupTree) (k : Nat) {f : Group → Group}
    (hparent : ∀ g, (f g).parent = g.parent) (hchildren : ∀ g, (f g).children = g.children)
    (hname : ∀ g, (f g).name = g.name) : SameShape t (t.modify k f) where
  parentOf? := parentOf?_modify_of_same t k hparent
  childrenOf := childrenOf_modify_of_same t k hchildren
  nameOf? := nameOf?_modify_of_same t k hname
  nextId := rfl

theorem SameShape.trans {t'' : GroupTree} (h : SameShape t t') (h' : SameShape t' t'') :
    SameShape t t'' where
  parentOf? group := (h'.parentOf? group).trans (h.parentOf? group)
  childrenOf group := (h'.childrenOf group).trans (h.childrenOf group)
  nameOf? group := (h'.nameOf? group).trans (h.nameOf? group)
  nextId := h'.nextId.trans h.nextId

theorem SameShape.symm (h : SameShape t t') : SameShape t' t where
  parentOf? group := (h.parentOf? group).symm
  childrenOf group := (h.childrenOf group).symm
  nameOf? group := (h.nameOf? group).symm
  nextId := h.nextId.symm

theorem SameShape.setEnabled {group : Nat} {enabled : Bool}
    (h : t.setEnabled group enabled = .ok t') : SameShape t t' := by
  rw [GroupTree.setEnabled] at h
  split at h
  · cases h
    exact .modify t group (fun _ => rfl) (fun _ => rfl) fun _ => rfl
  · contradiction

theorem SameShape.moveMember {id group : Nat} {source : Option Nat}
    (h : t.moveMember id source group = .ok t') : SameShape t t' := by
  unfold GroupTree.moveMember at h
  split at h
  · cases h
    cases source with
    | none => exact .modify t group (fun _ => rfl) (fun _ => rfl) fun _ => rfl
    | some old =>
        have hleft : SameShape t
            (t.modify old fun g => { g with members := g.members.remove id }) :=
          .modify t old (fun _ => rfl) (fun _ => rfl) fun _ => rfl
        exact hleft.trans (.modify _ group (fun _ => rfl) (fun _ => rfl) fun _ => rfl)
  · contradiction

theorem SameShape.removeMember (t : GroupTree) (group id : Nat) :
    SameShape t (t.removeMember group id).2 :=
  .modify t group (fun _ => rfl) (fun _ => rfl) fun _ => rfl

theorem SameShape.contains (h : SameShape t t') (group : Nat) :
    t'.contains group = t.contains group := by
  rw [contains_eq_isSome_parentOf?, contains_eq_isSome_parentOf?, h.parentOf?]

section Create

variable {name : String} {parent group : Nat}

theorem create_eq_ok (h : t.create name parent = .ok (group, t')) :
    group = t.nextId ∧ t.contains parent = true ∧
      t' = ⟨(t.modify parent (addChild t.nextId)).groups.insert t.nextId
        ⟨name, true, some parent, [], ∅⟩, t.nextId + 1⟩ := by
  rw [create] at h
  split at h
  next hparent =>
    cases h
    exact ⟨rfl, hparent, rfl⟩
  next => contradiction

theorem find?_create (h : t.create name parent = .ok (group, t')) (j : Nat) :
    t'.find? j = if j = t.nextId then some ⟨name, true, some parent, [], ∅⟩
      else (t.modify parent (addChild t.nextId)).find? j := by
  obtain ⟨-, -, rfl⟩ := create_eq_ok h
  exact Table.find?_insert _ _ _ _

/-- A group that was there is as it was, but for a new child. -/
theorem find?_create_of_ne (h : t.create name parent = .ok (group, t')) {x : Nat}
    (hne : x ≠ t.nextId) :
    t'.find? x = (t.find? x).map fun g =>
      { g with children := g.children ++ if x = parent then [t.nextId] else [] } := by
  rw [find?_create h, if_neg hne, find?_modify]
  split
  next heq => rw [heq]; rfl
  next => simp

theorem parentOf?_create (h : t.create name parent = .ok (group, t')) (j : Nat) :
    t'.parentOf? j = if j = t.nextId then some (some parent) else t.parentOf? j := by
  rw [parentOf?, find?_create h]
  split
  · rfl
  · exact parentOf?_modify_of_same t parent (f := addChild t.nextId) (fun _ => rfl) j

theorem nameOf?_create (h : t.create name parent = .ok (group, t')) (j : Nat) :
    t'.nameOf? j = if j = t.nextId then some name else t.nameOf? j := by
  rw [nameOf?, find?_create h]
  split
  · rfl
  · exact nameOf?_modify_of_same t parent (f := addChild t.nextId) (fun _ => rfl) j

theorem childrenOf_create (h : t.create name parent = .ok (group, t')) (j : Nat) :
    t'.childrenOf j =
      if j = t.nextId then []
      else t.childrenOf j ++ if j = parent then [t.nextId] else [] := by
  obtain ⟨-, hparent, -⟩ := create_eq_ok h
  rw [childrenOf, find?_create h]
  split
  · rfl
  · exact childrenOf_addChild hparent t.nextId j

end Create

section Move

variable {group parent : Nat}

theorem move_eq_ok (h : t.move group parent = .ok t') :
    group ≠ root ∧ t.contains group = true ∧ t.contains parent = true ∧
      group ∉ t.ancestors parent := by
  rw [move] at h
  split at h
  · contradiction
  next hroot =>
    split at h
    · contradiction
    next g hg =>
      split at h
      · contradiction
      next hparent =>
        split at h
        · contradiction
        next hcycle =>
          refine ⟨hroot, contains_eq_true_iff.mpr ⟨g, hg⟩, by simpa using hparent, ?_⟩
          simpa using hcycle

theorem move_eq_detach (h : t.move group parent = .ok t') :
    ∃ above, t.parentOf? group = some above ∧
      t' = ((t.modify group fun g => { g with parent := some parent }).detach above group).modify
        parent (addChild group) := by
  rw [move] at h
  split at h
  · contradiction
  split at h
  · contradiction
  next g hg =>
    split at h
    · contradiction
    split at h
    · contradiction
    cases h
    refine ⟨g.parent, by rw [parentOf?, hg, Option.map_some], ?_⟩
    cases g.parent <;> rfl

theorem parentOf?_move (h : t.move group parent = .ok t') (j : Nat) :
    t'.parentOf? j = if j = group then some (some parent) else t.parentOf? j := by
  obtain ⟨-, hgroup, -, -⟩ := move_eq_ok h
  obtain ⟨g, hg⟩ := contains_eq_true_iff.mp hgroup
  obtain ⟨above, -, rfl⟩ := move_eq_detach h
  rw [parentOf?_modify_of_same _ parent (f := addChild group) fun _ => rfl, parentOf?_detach,
    parentOf?_modify, hg]
  rfl

theorem nameOf?_move (h : t.move group parent = .ok t') (j : Nat) :
    t'.nameOf? j = t.nameOf? j := by
  obtain ⟨above, -, rfl⟩ := move_eq_detach h
  rw [nameOf?_modify_of_same _ parent (f := addChild group) fun _ => rfl, nameOf?_detach]
  apply nameOf?_modify_of_same
  intro g
  rfl

/-- A moved group leaves the list it was in and comes last in the list of its new parent. -/
theorem childrenOf_move (h : t.move group parent = .ok t') (j : Nat) :
    t'.childrenOf j =
      (if t.parentOf? group = some (some j) then (t.childrenOf j).filter (· ≠ group)
        else t.childrenOf j) ++ if j = parent then [group] else [] := by
  obtain ⟨-, -, hparent, -⟩ := move_eq_ok h
  obtain ⟨above, habove, rfl⟩ := move_eq_detach h
  have hlifted : (t.modify group fun g => { g with parent := some parent }).childrenOf j =
      t.childrenOf j := by
    apply childrenOf_modify_of_same
    intro g
    rfl
  have hstill : ((t.modify group fun g => { g with parent := some parent }).detach above
      group).contains parent = true := by
    rwa [contains_detach, contains_modify]
  rw [childrenOf_addChild hstill, childrenOf_detach, hlifted]
  simp only [habove, Option.some.injEq]

end Move

section Ancestors

variable (ht : t.Shaped)

include ht

theorem ancestors_of_parent {group parent : Nat} (h : t.parentOf? group = some (some parent)) :
    t.ancestors group = group :: t.ancestors parent :=
  (Climb.up h (ht.climb (ht.contains_parent h))).ancestors_eq

theorem mem_ancestors_self {group : Nat} (hgroup : t.contains group = true) :
    group ∈ t.ancestors group :=
  (ht.climb hgroup).mem_self

theorem contains_of_mem_ancestors {group x : Nat} (hgroup : t.contains group = true)
    (hx : x ∈ t.ancestors group) : t.contains x = true :=
  (ht.climb hgroup).contains_of_mem hx

theorem mem_ancestors_trans {low middle high : Nat} (hlow : t.contains low = true)
    (hmiddle : middle ∈ t.ancestors low) (hhigh : high ∈ t.ancestors middle) :
    high ∈ t.ancestors low := by
  obtain ⟨rest, hclimb, hsuffix⟩ := (ht.climb hlow).of_mem hmiddle
  rw [hclimb.ancestors_eq] at hhigh
  exact hsuffix.subset hhigh

/-- No group is above the one above it. -/
theorem not_mem_ancestors_parent {group parent : Nat}
    (h : t.parentOf? group = some (some parent)) : group ∉ t.ancestors parent := by
  have hnodup := (ht.climb (contains_of_parentOf? h)).nodup
  rw [ancestors_of_parent ht h] at hnodup
  exact (List.nodup_cons.mp hnodup).1

/-- The way up from below a group comes through one of its children. -/
theorem mem_ancestors_cases {group x : Nat} (hx : t.contains x = true)
    (h : group ∈ t.ancestors x) :
    x = group ∨ ∃ child, t.parentOf? child = some (some group) ∧ child ∈ t.ancestors x := by
  have hclimb := ht.climb hx
  generalize t.ancestors x = line at hclimb h
  induction hclimb with
  | top _ => exact .inl (List.mem_singleton.mp h).symm
  | up hup hrest ih =>
      rcases List.mem_cons.mp h with rfl | hlater
      · exact .inl rfl
      · right
        rcases ih hrest.contains hlater with rfl | ⟨child, hchild, hmem⟩
        · exact ⟨_, hup, List.mem_cons_self⟩
        · exact ⟨child, hchild, List.mem_cons_of_mem _ hmem⟩

end Ancestors

namespace Shaped

theorem find?_initial (group : Nat) : initial.find? group =
    if group = root then some ⟨rootName, true, none, [], ∅⟩ else none :=
  Table.find?_insert _ _ _ _

theorem initial : initial.Shaped where
  numbered := initial_numbered
  top := rfl
  rootNamed := rfl
  climbs group hgroup := by
    obtain ⟨g, hg⟩ := contains_eq_true_iff.mp hgroup
    rw [find?_initial] at hg
    split at hg
    next heq =>
      subst heq
      exact ⟨[root], .top rfl⟩
    next => contradiction
  linked parent child := by
    have hnone : GroupTree.initial.childrenOf parent = [] := by
      rw [childrenOf, find?_initial]
      split
      · rfl
      · rfl
    have hlink : GroupTree.initial.parentOf? child ≠ some (some parent) := by
      rw [parentOf?, find?_initial]
      split
      · simp
      · simp
    simp [hnone, hlink]
  nodup parent := by
    rw [childrenOf, find?_initial]
    split
    · exact List.nodup_nil
    · exact List.nodup_nil

/-- A tree with the same shape is a tree. -/
theorem sameShape (ht : t.Shaped) (h : SameShape t t') : t'.Shaped where
  numbered := ht.numbered.of_contains h.nextId fun group hgroup => h.contains group ▸ hgroup
  top := (h.parentOf? root).trans ht.top
  rootNamed := (h.nameOf? root).trans ht.rootNamed
  climbs group hgroup := by
    rw [h.contains] at hgroup
    exact ⟨_, (ht.climb hgroup).congr fun x _ => h.parentOf? x⟩
  linked parent child := by rw [h.childrenOf, h.parentOf?, ht.linked]
  nodup parent := h.childrenOf parent ▸ ht.nodup parent

theorem not_contains_nextId (ht : t.Shaped) : t.contains t.nextId = false := by
  by_contra hcontains
  rw [Bool.not_eq_false] at hcontains
  exact Nat.lt_irrefl _ (ht.numbered _ hcontains)

theorem ne_nextId (ht : t.Shaped) {x : Nat} (hx : t.contains x = true) : x ≠ t.nextId := by
  rintro rfl
  rw [ht.not_contains_nextId] at hx
  contradiction

/-- The way up from an older group leads past no new one. -/
theorem climb_create (ht : t.Shaped) {name : String} {parent group : Nat}
    (h : t.create name parent = .ok (group, t')) {x : Nat} (hx : t.contains x = true) :
    t'.Climb x (t.ancestors x) := by
  refine (ht.climb hx).congr fun y hy => ?_
  rw [parentOf?_create h, if_neg (ht.ne_nextId (contains_of_mem_ancestors ht hx hy))]

theorem linked_create (ht : t.Shaped) {name : String} {parent group : Nat}
    (h : t.create name parent = .ok (group, t')) (above child : Nat) :
    child ∈ t'.childrenOf above ↔ t'.parentOf? child = some (some above) := by
  obtain ⟨-, hparent, -⟩ := create_eq_ok h
  have hunder : ∀ x, t.parentOf? x ≠ some (some t.nextId) :=
    fun x hx => ht.ne_nextId (ht.contains_parent hx) rfl
  have hfree : ∀ link, t.parentOf? t.nextId ≠ some link :=
    fun link hx => ht.ne_nextId (contains_of_parentOf? hx) rfl
  rw [childrenOf_create h, parentOf?_create h]
  by_cases habove : above = t.nextId
  · -- the new group lists nobody yet
    subst habove
    by_cases hchild : child = t.nextId
    · simp [hchild, ht.ne_nextId hparent]
    · simp [hchild, hunder]
  · rw [if_neg habove, List.mem_append, ht.linked]
    by_cases hchild : child = t.nextId
    · subst hchild
      by_cases hlast : above = parent
      · simp [hlast]
      · simp [hlast, hfree, Ne.symm hlast]
    · have hold : child ∉ if above = parent then [t.nextId] else [] := by
        split
        · simp [hchild]
        · exact List.not_mem_nil
      simp [hchild, hold]

theorem create (ht : t.Shaped) {name : String} {parent group : Nat}
    (h : t.create name parent = .ok (group, t')) : t'.Shaped := by
  obtain ⟨-, hparent, -⟩ := create_eq_ok h
  refine ⟨(Reshaped.create h).numbered ht.numbered, ?_, ?_, ?_, ht.linked_create h, ?_⟩
  · rw [parentOf?_create h, if_neg (ht.ne_nextId ht.contains_root), ht.top]
  · rw [nameOf?_create h, if_neg (ht.ne_nextId ht.contains_root), ht.rootNamed]
  · intro x hx
    by_cases hnew : x = t.nextId
    · have hlink : t'.parentOf? x = some (some parent) := by rw [parentOf?_create h, if_pos hnew]
      exact ⟨_, .up hlink (ht.climb_create h hparent)⟩
    · rw [contains_eq_isSome_parentOf?, parentOf?_create h, if_neg hnew,
        ← contains_eq_isSome_parentOf?] at hx
      exact ⟨_, ht.climb_create h hx⟩
  · intro above
    rw [childrenOf_create h]
    split
    · exact List.nodup_nil
    split
    · refine List.Nodup.append (ht.nodup above) (List.nodup_singleton _) ?_
      rw [List.disjoint_singleton, ht.linked]
      exact fun hlink => ht.ne_nextId (contains_of_parentOf? hlink) rfl
    · rw [List.append_nil]
      exact ht.nodup above

/-- Where a moved group is on the way up, the way goes on from its new parent. -/
theorem climbs_move (ht : t.Shaped) {group parent : Nat} (h : t.move group parent = .ok t')
    {x : Nat} (hx : t.contains x = true) : ∃ line, t'.Climb x line := by
  obtain ⟨hroot, -, hparent, hcycle⟩ := move_eq_ok h
  have hover : t'.Climb parent (t.ancestors parent) := by
    refine (ht.climb hparent).congr fun y hy => ?_
    have hne : y ≠ group := by
      rintro rfl
      exact hcycle hy
    rw [parentOf?_move h, if_neg hne]
  have hclimb := ht.climb hx
  generalize t.ancestors x = line at hclimb
  induction hclimb with
  | top htop => exact ⟨[root], .top (by rw [parentOf?_move h, if_neg (Ne.symm hroot), htop])⟩
  | up hup hrest ih =>
      rename_i low above rest
      by_cases hmoved : low = group
      · exact ⟨_, .up (by rw [parentOf?_move h, if_pos hmoved]) hover⟩
      · obtain ⟨line, hline⟩ := ih hrest.contains
        exact ⟨_, .up (by rw [parentOf?_move h, if_neg hmoved, hup]) hline⟩

/-- Once a group has left the list of the one above it, it is in no list. -/
theorem mem_unlinked_iff (ht : t.Shaped) (group above child : Nat) :
    (child ∈ if t.parentOf? group = some (some above) then
        (t.childrenOf above).filter (· ≠ group) else t.childrenOf above) ↔
      child ≠ group ∧ t.parentOf? child = some (some above) := by
  split
  next => simp [ht.linked, and_comm]
  next hother =>
    rw [ht.linked]
    refine ⟨fun hlink => ⟨?_, hlink⟩, And.right⟩
    rintro rfl
    exact hother hlink

theorem contains_move {group parent : Nat} (h : t.move group parent = .ok t') (j : Nat) :
    t'.contains j = t.contains j :=
  contains_congr (membersOf?_move h j)

theorem move (ht : t.Shaped) {group parent : Nat} (h : t.move group parent = .ok t') :
    t'.Shaped := by
  obtain ⟨hroot, hgroup, hparent, hcycle⟩ := move_eq_ok h
  refine ⟨(Reshaped.move h).numbered ht.numbered, ?_, ?_, ?_, ?_, ?_⟩
  · rw [parentOf?_move h, if_neg (Ne.symm hroot), ht.top]
  · rw [nameOf?_move h, ht.rootNamed]
  · intro x hx
    rw [contains_move h] at hx
    exact ht.climbs_move h hx
  · intro above child
    rw [childrenOf_move h, parentOf?_move h, List.mem_append, ht.mem_unlinked_iff]
    by_cases hchild : child = group
    · subst hchild
      by_cases hlast : above = parent
      · simp [hlast]
      · simp [hlast, Ne.symm hlast]
    · have hold : child ∉ if above = parent then [group] else [] := by
        split
        · simp [hchild]
        · exact List.not_mem_nil
      simp [hchild, hold]
  · intro above
    rw [childrenOf_move h]
    have hunlinked : (if t.parentOf? group = some (some above) then
        (t.childrenOf above).filter (· ≠ group) else t.childrenOf above).Nodup := by
      split
      · exact (ht.nodup above).filter _
      · exact ht.nodup above
    by_cases hlast : above = parent
    · rw [if_pos hlast]
      refine List.Nodup.append hunlinked (List.nodup_singleton _) ?_
      rw [List.disjoint_singleton, ht.mem_unlinked_iff]
      simp
    · rw [if_neg hlast, List.append_nil]
      exact hunlinked

theorem reshaped (ht : t.Shaped) (h : Reshaped t t') : t'.Shaped := by
  cases h with
  | create hcreate => exact ht.create hcreate
  | move hmove => exact ht.move hmove
  | setEnabled hset => exact ht.sameShape (.setEnabled hset)

end Shaped

end Breakpoints.GroupTree
