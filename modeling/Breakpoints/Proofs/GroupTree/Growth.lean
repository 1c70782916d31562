import Breakpoints.Proofs.GroupTree.Edits
import Breakpoints.Proofs.GroupTree.Extension

/-!
What following a path builds.  The names lead down from the root as far as there are groups for
them.  For the rest of the names one new group comes below the other, the first of them behind the
children of the last group that was there.  The same path then leads to the same group, and nothing
more is built.
-/

namespace Breakpoints.GroupTree

variable {t t' : GroupTree}

/-- The group that names lead down to, if there is a group for each of them. -/
def follow? (t : GroupTree) (group : Nat) : List String → Option Nat
  | [] => some group
  | name :: names => (t.childNamed? group name).bind fun child => t.follow? child names

section Follow

theorem follow?_cons_of_childNamed? {group child : Nat} {name : String}
    (h : t.childNamed? group name = some child) (names : List String) :
    t.follow? group (name :: names) = t.follow? child names := by
  rw [follow?, h, Option.bind_some]

theorem follow?_append (group : Nat) (known names : List String) :
    t.follow? group (known ++ names) =
      (t.follow? group known).bind fun found => t.follow? found names := by
  induction known generalizing group with
  | nil => rfl
  | cons name known ih =>
      rw [List.cons_append, follow?, follow?]
      cases t.childNamed? group name with
      | none => rfl
      | some child => exact ih child

/-- Names that have their groups change nothing. -/
theorem descend_append_of_follow? {group found : Nat} {known : List String}
    (h : t.follow? group known = some found) (names : List String) :
    t.descend group (known ++ names) = t.descend found names := by
  induction known generalizing group with
  | nil =>
      cases h
      rfl
  | cons name known ih =>
      obtain ⟨child, hchild, hrest⟩ := Option.bind_eq_some_iff.mp h
      rw [List.cons_append, descend, hchild]
      exact ih hrest

theorem descend_of_follow? {group found : Nat} {names : List String}
    (h : t.follow? group names = some found) : t.descend group names = .ok (found, t) := by
  have hdescend := descend_append_of_follow? h []
  rwa [List.append_nil] at hdescend

/-- The names split where the groups for them end. -/
theorem exists_follow?_eq_some (t : GroupTree) (group : Nat) (names : List String) :
    ∃ known missing anchor, names = known ++ missing ∧ t.follow? group known = some anchor ∧
      ∀ name, missing.head? = some name → t.childNamed? anchor name = none := by
  induction names generalizing group with
  | nil => exact ⟨[], [], group, rfl, rfl, by simp⟩
  | cons name names ih =>
      cases hchild : t.childNamed? group name with
      | none => exact ⟨[], name :: names, group, rfl, rfl, by simpa using hchild⟩
      | some child =>
          obtain ⟨known, missing, anchor, hnames, hfollow, hmissing⟩ := ih child
          refine ⟨name :: known, missing, anchor, by rw [hnames, List.cons_append], ?_, hmissing⟩
          rw [follow?_cons_of_childNamed? hchild, hfollow]

/-- The group that names lead to is there, and they are its names below where they start. -/
theorem route_of_follow? (ht : t.Shaped) {group found : Nat} (hgroup : t.contains group = true)
    {names : List String} (h : t.follow? group names = some found) :
    t.contains found = true ∧ t.route found = t.route group ++ names := by
  induction names generalizing group with
  | nil =>
      cases h
      exact ⟨hgroup, by rw [List.append_nil]⟩
  | cons name names ih =>
      obtain ⟨child, hchild, hrest⟩ := Option.bind_eq_some_iff.mp h
      obtain ⟨hlink, hname⟩ := childNamed?_eq_some ht hchild
      obtain ⟨hfound, hroute⟩ := ih (contains_of_parentOf? hlink) hrest
      refine ⟨hfound, ?_⟩
      rw [hroute, route_of_parent ht hlink hname, List.append_assoc, List.singleton_append]

end Follow

section Build

/-- What a row of new groups adds to the children of the group it hangs from: the first of them. -/
def firstOf (id : Nat) : List String → List Nat
  | [] => []
  | _ :: _ => [id]

/-- A row of groups, one below the other, with ids that count up.  Each is enabled, has no members,
and has the next one as its only child. -/
def Strand (t : GroupTree) (above id : Nat) : List String → Prop
  | [] => True
  | name :: names =>
    t.find? id = some ⟨name, true, some above, firstOf (id + 1) names, ∅⟩ ∧
      t.Strand id (id + 1) names

/-- The groups for the missing names have come, as one row below a group that was there; the last
of them is the one that is found.  All groups that were there are as they were, except that this
group has the first of the row as its last child; and no other groups have come. -/
structure Grown (t : GroupTree) (anchor : Nat) (missing : List String) (found : Nat)
    (t' : GroupTree) : Prop where
  kept : ∀ group g, t.find? group = some g → t'.find? group = some { g with
    children := g.children ++ if group = anchor then firstOf t.nextId missing else [] }
  came : t'.Strand anchor t.nextId missing
  only : ∀ group, t'.contains group = true →
    t.contains group = true ∨ t.nextId ≤ group ∧ group < t.nextId + missing.length
  found : found = if missing = [] then anchor else t.nextId + missing.length - 1
  nextId : t'.nextId = t.nextId + missing.length

theorem Grown.refl (t : GroupTree) (anchor : Nat) : Grown t anchor [] anchor t where
  kept group g hfind := by
    rw [firstOf, ite_self, List.append_nil]
    exact hfind
  came := trivial
  only _ hgroup := .inl hgroup
  found := rfl
  nextId := rfl

/-- A group that was just created has no children. -/
theorem childNamed?_of_create {name : String} {parent group : Nat}
    (h : t.create name parent = .ok (group, t')) (other : String) :
    t'.childNamed? t.nextId other = none := by
  rw [childNamed?, find?_create h, if_pos rfl]
  rfl

/-- A new group and a row below it are a longer row. -/
theorem Grown.cons (ht : t.Shaped) {name : String} {anchor group : Nat} {grown : GroupTree}
    (hcreate : t.create name anchor = .ok (group, grown)) {names : List String} {found : Nat}
    (h : Grown grown t.nextId names found t') : Grown t anchor (name :: names) found t' := by
  have hnext : grown.nextId = t.nextId + 1 := nextId_create hcreate
  refine ⟨fun x g hfind => ?_, ⟨?_, ?_⟩, fun x hx => ?_, ?_, ?_⟩
  · have hne : x ≠ t.nextId := ht.ne_nextId (contains_eq_true_iff.mpr ⟨g, hfind⟩)
    have hmiddle : grown.find? x = some { g with
        children := g.children ++ if x = anchor then [t.nextId] else [] } := by
      rw [find?_create_of_ne hcreate hne, hfind, Option.map_some]
    rw [h.kept x _ hmiddle, if_neg hne, List.append_nil]
    rfl
  · have hnew : grown.find? t.nextId = some ⟨name, true, some anchor, [], ∅⟩ := by
      rw [find?_create hcreate, if_pos rfl]
    rw [h.kept t.nextId _ hnew, if_pos rfl, hnext, List.nil_append]
  · rw [← hnext]
    exact h.came
  · rw [List.length_cons]
    rcases h.only x hx with hmiddle | ⟨hle, hlt⟩
    · rw [contains_eq_isSome_parentOf?, parentOf?_create hcreate] at hmiddle
      split at hmiddle
      next heq => exact .inr ⟨by omega, by omega⟩
      next =>
        rw [← contains_eq_isSome_parentOf?] at hmiddle
        exact .inl hmiddle
    · exact .inr ⟨by omega, by omega⟩
  · rw [h.found, if_neg (List.cons_ne_nil name names), List.length_cons]
    cases names with
    | nil => rfl
    | cons next names =>
        rw [if_neg (List.cons_ne_nil next names), hnext, List.length_cons]
        omega
  · rw [h.nextId, hnext, List.length_cons]
    omega

/-- Where no child bears the first of the names, a group is built for each of them. -/
theorem descend_grown (ht : t.Shaped) {anchor : Nat} (hanchor : t.contains anchor = true)
    {missing : List String}
    (hfirst : ∀ name, missing.head? = some name → t.childNamed? anchor name = none) :
    ∃ found t', t.descend anchor missing = .ok (found, t') ∧ Grown t anchor missing found t' := by
  induction missing generalizing t anchor with
  | nil => exact ⟨anchor, t, rfl, .refl t anchor⟩
  | cons name names ih =>
      obtain ⟨grown, hcreate⟩ : ∃ grown, t.create name anchor = .ok (t.nextId, grown) := by
        rw [create, if_pos hanchor]
        exact ⟨_, rfl⟩
      have hlink : grown.parentOf? t.nextId = some (some anchor) := by
        rw [parentOf?_create hcreate, if_pos rfl]
      obtain ⟨found, t', hdescend, hgrown⟩ := ih (ht.create hcreate) (contains_of_parentOf? hlink)
        fun other _ => childNamed?_of_create hcreate other
      refine ⟨found, t', ?_, hgrown.cons ht hcreate⟩
      rw [descend, hfirst name rfl]
      dsimp only
      rw [hcreate]
      exact hdescend

end Build

section Again

theorem Extended.nameOf?_eq (h : Extended t t') {group : Nat} (hgroup : t.contains group = true) :
    t'.nameOf? group = t.nameOf? group := by
  obtain ⟨g, hg⟩ := contains_eq_true_iff.mp hgroup
  obtain ⟨more, hkept, -⟩ := h.kept group g hg
  rw [nameOf?, nameOf?, hkept, hg]
  rfl

/-- The first child with a name stays the first: new children come behind it. -/
theorem Extended.childNamed?_eq_some (ht : t.Shaped) (h : Extended t t') {parent child : Nat}
    {name : String} (hchild : t.childNamed? parent name = some child) :
    t'.childNamed? parent name = some child := by
  obtain ⟨hname, before, after, hchildren, hbefore⟩ := childNamed?_eq_some_iff.mp hchild
  have hthere : ∀ x ∈ t.childrenOf parent, t.contains x = true :=
    fun x hx => contains_of_parentOf? ((ht.linked parent x).mp hx)
  rw [hchildren] at hthere
  obtain ⟨p, hp⟩ : ∃ p, t.find? parent = some p := by
    have hlisted : child ∈ t.childrenOf parent := by simp [hchildren]
    exact contains_eq_true_iff.mp (ht.contains_parent ((ht.linked parent child).mp hlisted))
  obtain ⟨more, hkept, -⟩ := h.kept parent p hp
  refine childNamed?_eq_some_iff.mpr ⟨?_, before, after ++ more, ?_, fun x hx => ?_⟩
  · rw [h.nameOf?_eq (hthere child (by simp)), hname]
  · rw [childrenOf, hp, Option.map_some, Option.getD_some] at hchildren
    rw [childrenOf, hkept, Option.map_some, Option.getD_some, hchildren, List.append_assoc,
      List.cons_append]
  · rw [h.nameOf?_eq (hthere x (by simp [hx]))]
    exact hbefore x hx

/-- A group that was created for a name is the first with that name. -/
theorem childNamed?_create (ht : t.Shaped) {name : String} {parent group : Nat}
    (hnone : t.childNamed? parent name = none) (h : t.create name parent = .ok (group, t')) :
    t'.childNamed? parent name = some t.nextId := by
  obtain ⟨-, hparent, -⟩ := create_eq_ok h
  refine childNamed?_eq_some_iff.mpr ⟨?_, t.childrenOf parent, [], ?_, fun x hx => ?_⟩
  · rw [nameOf?_create h, if_pos rfl]
  · rw [childrenOf_create h, if_neg (ht.ne_nextId hparent), if_pos rfl]
  · have hthere := contains_of_parentOf? ((ht.linked parent x).mp hx)
    rw [nameOf?_create h, if_neg (ht.ne_nextId hthere)]
    exact childNamed?_eq_none_iff.mp hnone x hx

/-- Names that were followed, and their groups built where they were missing, lead to the same
group again. -/
theorem follow?_of_descend (ht : t.Shaped) {names : List String} {group found : Nat}
    (h : t.descend group names = .ok (found, t')) : t'.follow? group names = some found := by
  induction names generalizing t group with
  | nil =>
      cases h
      rfl
  | cons name names ih =>
      rw [descend] at h
      split at h
      next child hchild =>
        have hlater := (Extended.descend ht.numbered h).childNamed?_eq_some ht hchild
        rw [follow?_cons_of_childNamed? hlater]
        exact ih ht h
      next hnone =>
        split at h
        · contradiction
        next child grown hcreate =>
          obtain ⟨rfl, -, -⟩ := create_eq_ok hcreate
          have hgrown := ht.create hcreate
          have hlater := (Extended.descend hgrown.numbered h).childNamed?_eq_some hgrown
            (childNamed?_create ht hnone hcreate)
          rw [follow?_cons_of_childNamed? hlater]
          exact ih hgrown h

end Again

section Path

variable (ht : t.Shaped) {path : String} {found : Nat}

include ht

/-- Following a path builds a row of groups for the names at its end that have none. -/
theorem ensurePath_grown (h : t.ensurePath path = .ok (found, t')) :
    ∃ known missing anchor, pathNames path = known ++ missing ∧
      t.follow? root known = some anchor ∧
      (∀ name, missing.head? = some name → t.childNamed? anchor name = none) ∧
      Grown t anchor missing found t' := by
  obtain ⟨known, missing, anchor, hnames, hknown, hmissing⟩ :=
    exists_follow?_eq_some t root (pathNames path)
  have hanchor := (route_of_follow? ht ht.contains_root hknown).1
  obtain ⟨_, _, hdescend, hgrown⟩ := descend_grown ht hanchor hmissing
  rw [ensurePath, hnames, descend_append_of_follow? hknown, hdescend] at h
  cases h
  exact ⟨known, missing, anchor, hnames, hknown, hmissing, hgrown⟩

/-- A path that leads to a group that was there builds nothing. -/
theorem follow?_of_ensurePath (h : t.ensurePath path = .ok (found, t'))
    (hfound : t.contains found = true) :
    t.follow? root (pathNames path) = some found ∧ t' = t := by
  obtain ⟨known, missing, anchor, hnames, hknown, -, hgrown⟩ := ensurePath_grown ht h
  have hend := hgrown.found
  have hold : missing = [] := by
    by_contra hsome
    rw [if_neg hsome] at hend
    have hlt := ht.numbered found hfound
    have hpos := List.length_pos_iff.mpr hsome
    omega
  rw [if_pos hold] at hend
  have hfollow : t.follow? root (pathNames path) = some found := by
    rw [hnames, hold, List.append_nil, hknown, hend]
  rw [ensurePath, descend_of_follow? hfollow] at h
  cases h
  exact ⟨hfollow, rfl⟩

end Path

/-- A path can be followed in every tree, and leads to a group whose path is the names in it, from
the root: the pieces between its slashes that are not empty, without a leading name of the root.
The names lead down to one group as far as there are groups for them.  For the rest of them a row of
new groups is built below it: enabled, without members, one below the other.  All groups that were
there keep their names, flags, parents, members and children; only the group that the row hangs from
has a new child, behind the ones it had.  Following the path again leads to the same group and
changes nothing. -/
theorem edited_ensurePath (edits : List Edit) (path : String) :
    let t := initial.edited edits
    let pieces := ((path.toList.splitOn '/').filter (· ≠ [])).map String.ofList
    let names := if pieces.head? = some "Default" then pieces.tail else pieces
    ∃ found t' known missing anchor,
      t.ensurePath path = .ok (found, t') ∧
      t'.path found = some (String.intercalate "/" ("Default" :: names)) ∧
      names = known ++ missing ∧
      t.follow? root known = some anchor ∧
      (∀ name, missing.head? = some name → t.childNamed? anchor name = none) ∧
      Grown t anchor missing found t' ∧
      t'.ensurePath path = .ok (found, t') := by
  intro t pieces names
  have hsame : pathNames path = names := pathNames_eq path
  have ht : t.Shaped := (Shaped.initial.edited edits).1
  obtain ⟨found, t', hpath, -, -, -, hfollowed⟩ := ensurePath_eq_ok ht path
  obtain ⟨known, missing, anchor, hnames, hknown, hmissing, hgrown⟩ := ensurePath_grown ht hpath
  rw [followedPath, hsame] at hfollowed
  exact ⟨found, t', known, missing, anchor, hpath, hfollowed, hsame.symm.trans hnames, hknown,
    hmissing, hgrown, descend_of_follow? (follow?_of_descend ht hpath)⟩

end Breakpoints.GroupTree
