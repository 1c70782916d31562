import Breakpoints.Proofs.GroupTree.Subtree
import Breakpoints.Proofs.Text

/-!
Paths of groups.  Following a path creates what is missing and leaves the paths of all other groups
as they were; the group at its end has the path that was followed, without the empty names in it.
-/

namespace Breakpoints.GroupTree

variable {t t' : GroupTree}

/-- The names from the root down to a group. -/
def route (t : GroupTree) (group : Nat) : List String :=
  ((t.ancestors group).filterMap t.nameOf?).reverse

theorem path_eq {group : Nat} (h : t.contains group = true) :
    t.path group = some (String.intercalate "/" (t.route group)) := by
  rw [path, if_pos h]
  rfl

/-- The names in a path are the pieces between its slashes that are not empty, without the name of
the root where it comes first. -/
theorem pathNames_eq (path : String) :
    pathNames path =
      let pieces := ((path.toList.splitOn '/').filter (· ≠ [])).map String.ofList
      if pieces.head? = some "Default" then pieces.tail else pieces := by
  have hpieces : (path.toList.splitOn '/').filter (!·.isEmpty) =
      (path.toList.splitOn '/').filter (· ≠ []) := by
    refine List.filter_congr fun piece _ => ?_
    cases piece with
    | nil => rfl
    | cons c piece => rfl
  rw [pathNames, hpieces]
  cases ((path.toList.splitOn '/').filter (· ≠ [])).map String.ofList with
  | nil => rfl
  | cons name names =>
      simp only [List.head?_cons, Option.some.injEq, List.tail_cons]
      exact if_congr Iff.rfl rfl rfl

/-- A path as it is followed: from the root, and without empty names. -/
def followedPath (path : String) : String :=
  String.intercalate "/" (rootName :: pathNames path)

section Route

variable (ht : t.Shaped)

include ht

theorem route_root : t.route root = [rootName] := by
  rw [route, (Climb.top ht.top).ancestors_eq, List.filterMap_cons_some ht.rootNamed]
  rfl

theorem route_of_parent {group parent : Nat} {name : String}
    (hlink : t.parentOf? group = some (some parent)) (hname : t.nameOf? group = some name) :
    t.route group = t.route parent ++ [name] := by
  rw [route, ancestors_of_parent ht hlink, List.filterMap_cons_some hname, List.reverse_cons]
  rfl

/-- Every path begins at the root. -/
theorem exists_route_eq_cons {group : Nat} (hgroup : t.contains group = true) :
    ∃ names, t.route group = rootName :: names := by
  have hclimb := ht.climb hgroup
  generalize t.ancestors group = line at hclimb
  induction hclimb with
  | top _ => exact ⟨[], route_root ht⟩
  | up hup hrest ih =>
      rename_i low above rest
      obtain ⟨names, hnames⟩ := ih hrest.contains
      obtain ⟨g, hg, -⟩ := Option.map_eq_some_iff.mp hup
      have hname : t.nameOf? low = some g.name := by rw [nameOf?, hg, Option.map_some]
      exact ⟨names ++ [g.name], by rw [route_of_parent ht hup hname, hnames, List.cons_append]⟩

end Route

/-- Groups may have come; those that were there keep their names and their links upward. -/
structure Grows (t t' : GroupTree) : Prop where
  parentOf? : ∀ group, t.contains group = true → t'.parentOf? group = t.parentOf? group
  nameOf? : ∀ group, t.contains group = true → t'.nameOf? group = t.nameOf? group

namespace Grows

theorem refl (t : GroupTree) : Grows t t :=
  ⟨fun _ _ => rfl, fun _ _ => rfl⟩

theorem contains (h : Grows t t') {group : Nat} (hgroup : t.contains group = true) :
    t'.contains group = true := by
  rwa [contains_eq_isSome_parentOf?, h.parentOf? group hgroup, ← contains_eq_isSome_parentOf?]

theorem trans {t'' : GroupTree} (h : Grows t t') (h' : Grows t' t'') : Grows t t'' where
  parentOf? group hgroup :=
    (h'.parentOf? group (h.contains hgroup)).trans (h.parentOf? group hgroup)
  nameOf? group hgroup := (h'.nameOf? group (h.contains hgroup)).trans (h.nameOf? group hgroup)

theorem of_sameShape (h : SameShape t t') : Grows t t' :=
  ⟨fun group _ => h.parentOf? group, fun group _ => h.nameOf? group⟩

theorem create (ht : t.Shaped) {name : String} {parent group : Nat}
    (h : t.create name parent = .ok (group, t')) : Grows t t' where
  parentOf? x hx := by rw [parentOf?_create h, if_neg (ht.ne_nextId hx)]
  nameOf? x hx := by rw [nameOf?_create h, if_neg (ht.ne_nextId hx)]

/-- The way down to a group stays. -/
theorem route (h : Grows t t') (ht : t.Shaped) {group : Nat} (hgroup : t.contains group = true) :
    t'.route group = t.route group := by
  have hclimb : t'.Climb group (t.ancestors group) :=
    (ht.climb hgroup).congr fun x hx =>
      h.parentOf? x (contains_of_mem_ancestors ht hgroup hx)
  rw [GroupTree.route, GroupTree.route, hclimb.ancestors_eq]
  congr 1
  refine List.filterMap_congr fun x hx => ?_
  exact h.nameOf? x (contains_of_mem_ancestors ht hgroup hx)

theorem path (h : Grows t t') (ht : t.Shaped) {group : Nat} (hgroup : t.contains group = true) :
    t'.path group = t.path group := by
  rw [path_eq (h.contains hgroup), path_eq hgroup, h.route ht hgroup]

end Grows

section Named

/-- The child that a name leads to is the first with that name. -/
theorem childNamed?_eq (t : GroupTree) (parent : Nat) (name : String) :
    t.childNamed? parent name =
      (t.childrenOf parent).find? fun child => t.nameOf? child == some name := by
  rw [childNamed?, childrenOf]
  cases t.find? parent with
  | none => rfl
  | some p =>
      refine congrArg p.children.find? (funext fun child => ?_)
      rw [nameOf?]
      cases t.find? child with
      | none => rfl
      | some g => simp

theorem childNamed?_eq_some_iff {parent child : Nat} {name : String} :
    t.childNamed? parent name = some child ↔
      t.nameOf? child = some name ∧ ∃ before after,
        t.childrenOf parent = before ++ child :: after ∧
          ∀ x ∈ before, t.nameOf? x ≠ some name := by
  rw [childNamed?_eq, List.find?_eq_some_iff_append]
  simp

theorem childNamed?_eq_none_iff {parent : Nat} {name : String} :
    t.childNamed? parent name = none ↔
      ∀ child ∈ t.childrenOf parent, t.nameOf? child ≠ some name := by
  rw [childNamed?_eq, List.find?_eq_none]
  simp

end Named

section Follow

theorem childNamed?_eq_some (ht : t.Shaped) {parent child : Nat} {name : String}
    (h : t.childNamed? parent name = some child) :
    t.parentOf? child = some (some parent) ∧ t.nameOf? child = some name := by
  obtain ⟨hname, before, after, hchildren, -⟩ := childNamed?_eq_some_iff.mp h
  have hlisted : child ∈ t.childrenOf parent := by simp [hchildren]
  exact ⟨(ht.linked parent child).mp hlisted, hname⟩

/-- Following names downward never fails, and ends at a group that they lead to. -/
theorem descend_eq_ok (ht : t.Shaped) {group : Nat} (hgroup : t.contains group = true)
    (names : List String) : ∃ found t', t.descend group names = .ok (found, t') ∧ t'.Shaped ∧
      Grows t t' ∧ t'.contains found = true ∧ t'.route found = t.route group ++ names := by
  induction names generalizing t group with
  | nil => exact ⟨group, t, rfl, ht, .refl t, hgroup, by rw [List.append_nil]⟩
  | cons name names ih =>
      cases hchild : t.childNamed? group name with
      | some child =>
          obtain ⟨hlink, hname⟩ := childNamed?_eq_some ht hchild
          obtain ⟨found, t', hdescend, ht', hgrows, hfound, hroute⟩ :=
            ih ht (contains_of_parentOf? hlink)
          refine ⟨found, t', by rw [descend, hchild]; exact hdescend, ht', hgrows, hfound, ?_⟩
          rw [hroute, route_of_parent ht hlink hname, List.append_assoc, List.singleton_append]
      | none =>
          obtain ⟨grown, hcreate⟩ : ∃ grown, t.create name group = .ok (t.nextId, grown) := by
            rw [create, if_pos hgroup]
            exact ⟨_, rfl⟩
          have hgrown := ht.create hcreate
          have hlink : grown.parentOf? t.nextId = some (some group) := by
            rw [parentOf?_create hcreate, if_pos rfl]
          have hname : grown.nameOf? t.nextId = some name := by
            rw [nameOf?_create hcreate, if_pos rfl]
          have hgrows := Grows.create ht hcreate
          obtain ⟨found, t', hdescend, ht', hlater, hfound, hroute⟩ :=
            ih hgrown (contains_of_parentOf? hlink)
          refine ⟨found, t', ?_, ht', hgrows.trans hlater, hfound, ?_⟩
          · rw [descend, hchild]
            dsimp only
            rw [hcreate]
            exact hdescend
          · rw [hroute, route_of_parent hgrown hlink hname, hgrows.route ht hgroup,
              List.append_assoc, List.singleton_append]

/-- A path always leads to a group, and the group has the path that was followed. -/
theorem ensurePath_eq_ok (ht : t.Shaped) (path : String) :
    ∃ found t', t.ensurePath path = .ok (found, t') ∧ t'.Shaped ∧ Grows t t' ∧
      t'.contains found = true ∧ t'.path found = some (followedPath path) := by
  obtain ⟨found, t', hdescend, ht', hgrows, hfound, hroute⟩ :=
    descend_eq_ok ht ht.contains_root (pathNames path)
  refine ⟨found, t', hdescend, ht', hgrows, hfound, ?_⟩
  rw [path_eq hfound, hroute, route_root ht]
  rfl

theorem ensurePath_followed (ht : t.Shaped) {path : String} {found : Nat}
    (h : t.ensurePath path = .ok (found, t')) :
    t'.Shaped ∧ Grows t t' ∧ t'.contains found = true ∧
      t'.path found = some (followedPath path) := by
  obtain ⟨_, _, hsame, hfollowed⟩ := ensurePath_eq_ok ht path
  rw [h] at hsame
  cases hsame
  exact hfollowed

end Follow

section Plain

/-- A path without empty names. -/
def PlainPath (path : String) : Prop :=
  ∀ name ∈ path.toList.splitOn '/', name ≠ []

/-- A path from the root without empty names is followed as it is. -/
theorem followedPath_eq_self {path : String} (hplain : PlainPath path)
    (hroot : (path.toList.splitOn '/').head? = some rootName.toList) :
    followedPath path = path := by
  obtain ⟨rest, hparts⟩ : ∃ rest, path.toList.splitOn '/' = rootName.toList :: rest := by
    cases hsplit : path.toList.splitOn '/' with
    | nil =>
        rw [hsplit] at hroot
        contradiction
    | cons first rest =>
        rw [hsplit, List.head?_cons, Option.some.injEq] at hroot
        exact ⟨rest, by rw [hroot]⟩
  have hall : (path.toList.splitOn '/').filter (fun part => !part.isEmpty) =
      path.toList.splitOn '/' := by
    rw [List.filter_eq_self]
    intro part hpart
    simpa using hplain part hpart
  have hnames : pathNames path = rest.map String.ofList := by
    rw [pathNames, hall, hparts, List.map_cons, String.ofList_toList]
    exact if_pos rfl
  rw [followedPath, hnames, ← String.toList_inj, String.toList_intercalate, List.map_cons,
    List.map_map]
  have hlists : rest.map (String.toList ∘ String.ofList) = rest := by
    simp [Function.comp_def]
  rw [hlists, ← hparts]
  exact List.intercalate_splitOn '/'

/-- The path of a group is followed as it is, unless a name in it is empty. -/
theorem followedPath_path (ht : t.Shaped) {group : Nat} (hgroup : t.contains group = true)
    {path : String} (hpath : t.path group = some path) (hplain : PlainPath path) :
    followedPath path = path := by
  rw [path_eq hgroup, Option.some.injEq] at hpath
  obtain ⟨names, hnames⟩ := exists_route_eq_cons ht hgroup
  have hne : (rootName :: names).map String.toList ≠ [] := List.cons_ne_nil _ _
  have hparts := Text.splitOn_intercalate_parts (d := '/') hne
  apply followedPath_eq_self hplain
  rw [← hpath, hnames, String.toList_intercalate]
  exact (congrArg List.head? hparts).trans rfl

end Plain

end Breakpoints.GroupTree
