import Breakpoints.Proofs.GroupTree.Growth

/-!
Which groups are found by their own paths.  A path is read back as the names it was joined from only
if none of them is empty or has a slash in it, and a name leads to the first of the groups that bear
it below one parent.
-/

namespace Breakpoints.GroupTree

variable {t t' : GroupTree}

/-- A name that is read from a path as it was written there. -/
def Spelled (name : String) : Prop :=
  name ≠ "" ∧ '/' ∉ name.toList

section Names

/-- All names that are read from a path are spelled. -/
theorem spelled_of_mem_pathNames {path name : String} (h : name ∈ pathNames path) :
    Spelled name := by
  have hpart : name ∈ ((path.toList.splitOn '/').filter (!·.isEmpty)).map String.ofList := by
    rw [pathNames] at h
    split at h
    · contradiction
    next first rest hsplit =>
      rw [hsplit]
      split at h
      · exact List.mem_cons_of_mem first h
      · exact h
  obtain ⟨part, hmem, rfl⟩ := List.mem_map.mp hpart
  obtain ⟨hpiece, hsome⟩ := List.mem_filter.mp hmem
  refine ⟨?_, ?_⟩
  · rw [Ne, ← String.toList_eq_nil_iff, String.toList_ofList]
    simpa using hsome
  · rw [String.toList_ofList]
    exact Text.not_mem_of_mem_splitOn hpiece

/-- Spelled names are read from the path that is joined from them. -/
theorem pathNames_intercalate {names : List String} (h : ∀ name ∈ names, Spelled name) :
    pathNames (String.intercalate "/" (rootName :: names)) = names := by
  have hall : ∀ name ∈ rootName :: names, Spelled name := by
    rw [List.forall_mem_cons]
    exact ⟨⟨by decide, by decide⟩, h⟩
  have hsplit : (String.intercalate "/" (rootName :: names)).toList.splitOn '/' =
      (rootName :: names).map String.toList := by
    rw [String.toList_intercalate]
    apply List.splitOn_intercalate
    · intro part hpart
      obtain ⟨name, hname, rfl⟩ := List.mem_map.mp hpart
      exact (hall name hname).2
    · exact List.cons_ne_nil _ _
  have hkept : ((rootName :: names).map String.toList).filter (!·.isEmpty) =
      (rootName :: names).map String.toList := by
    rw [List.filter_eq_self]
    intro part hpart
    obtain ⟨name, hname, rfl⟩ := List.mem_map.mp hpart
    simpa using (hall name hname).1
  have hback : ((rootName :: names).map String.toList).map String.ofList = rootName :: names := by
    simp [Function.comp_def]
  rw [pathNames, hsplit, hkept, hback]
  exact if_pos rfl

end Names

/-- A group that its name leads to from its parent: the name is spelled, and no group before it has
the same name. -/
def Addressable (t : GroupTree) (group : Nat) : Prop :=
  ∃ parent name before after,
    t.parentOf? group = some (some parent) ∧ t.nameOf? group = some name ∧
      Spelled name ∧ t.childrenOf parent = before ++ group :: after ∧
      ∀ x ∈ before, t.nameOf? x ≠ some name

section Address

variable (ht : t.Shaped)

include ht

theorem addressable_iff {group : Nat} : t.Addressable group ↔
    ∃ parent name, t.childNamed? parent name = some group ∧ Spelled name := by
  constructor
  · rintro ⟨parent, name, before, after, -, hname, hspelled, hchildren, hfirst⟩
    exact ⟨parent, name, childNamed?_eq_some_iff.mpr ⟨hname, before, after, hchildren, hfirst⟩,
      hspelled⟩
  · rintro ⟨parent, name, hchild, hspelled⟩
    obtain ⟨hname, before, after, hchildren, hfirst⟩ := childNamed?_eq_some_iff.mp hchild
    exact ⟨parent, name, before, after, (childNamed?_eq_some ht hchild).1, hname, hspelled,
      hchildren, hfirst⟩

/-- Below the group where they start, spelled names lead past addressable groups only. -/
theorem addressable_of_follow? {group found : Nat} {names : List String}
    (hgroup : t.contains group = true) (hnames : ∀ name ∈ names, Spelled name)
    (h : t.follow? group names = some found) :
    ∀ x ∈ t.ancestors found, x ∈ t.ancestors group ∨ t.Addressable x := by
  induction names generalizing group with
  | nil =>
      cases h
      exact fun x hx => .inl hx
  | cons name names ih =>
      rw [List.forall_mem_cons] at hnames
      obtain ⟨child, hchild, hrest⟩ := Option.bind_eq_some_iff.mp h
      have hlink := (childNamed?_eq_some ht hchild).1
      intro x hx
      rcases ih (contains_of_parentOf? hlink) hnames.2 hrest x hx with hmem | hmem
      · rw [ancestors_of_parent ht hlink] at hmem
        rcases List.mem_cons.mp hmem with rfl | habove
        · exact .inr ((addressable_iff ht).mpr ⟨group, name, hchild, hnames.1⟩)
        · exact .inl habove
      · exact .inr hmem

/-- Past addressable groups the names lead from the root down to a group. -/
theorem follow?_of_addressable {group : Nat} (hgroup : t.contains group = true)
    (h : ∀ x ∈ t.ancestors group, x ≠ root → t.Addressable x) :
    ∃ names, t.route group = rootName :: names ∧ (∀ name ∈ names, Spelled name) ∧
      t.follow? root names = some group := by
  have hclimb := ht.climb hgroup
  generalize t.ancestors group = line at hclimb h
  induction hclimb with
  | top _ => exact ⟨[], route_root ht, by simp, rfl⟩
  | up hup hrest ih =>
      rename_i low above rest
      obtain ⟨names, hroute, hspelled, hfollow⟩ := ih hrest.contains fun x hx =>
        h x (List.mem_cons_of_mem low hx)
      have hlow : low ≠ root := by
        rintro rfl
        rw [ht.top] at hup
        cases hup
      obtain ⟨parent, name, hchild, hname⟩ :=
        (addressable_iff ht).mp (h low List.mem_cons_self hlow)
      obtain ⟨hlink, hnamed⟩ := childNamed?_eq_some ht hchild
      rw [hup, Option.some.injEq, Option.some.injEq] at hlink
      subst hlink
      refine ⟨names ++ [name], ?_, ?_, ?_⟩
      · rw [route_of_parent ht hup hnamed, hroute, List.cons_append]
      · rw [List.forall_mem_append, List.forall_mem_singleton]
        exact ⟨hspelled, hname⟩
      · rw [follow?_append, hfollow, Option.bind_some, follow?_cons_of_childNamed? hchild]
        rfl

/-- Where the path of a group leads: to the group itself, with nothing built, if all groups down to
it are addressable; and to another one if they are not. -/
theorem ensurePath_path {group : Nat} (hgroup : t.contains group = true) {found : Nat}
    (h : t.ensurePath (String.intercalate "/" (t.route group)) = .ok (found, t')) :
    (found = group ↔ ∀ x ∈ t.ancestors group, x ≠ root → t.Addressable x) ∧
      (found = group → t' = t) := by
  refine ⟨⟨?_, fun haddress => ?_⟩, ?_⟩
  · rintro rfl
    have hfollow := (follow?_of_ensurePath ht h hgroup).1
    intro x hx hne
    have hbelow := addressable_of_follow? ht ht.contains_root
      (fun name hname => spelled_of_mem_pathNames hname) hfollow x hx
    rw [(Climb.top ht.top).ancestors_eq, List.mem_singleton] at hbelow
    exact hbelow.resolve_left hne
  · obtain ⟨names, hroute, hspelled, hfollow⟩ := follow?_of_addressable ht hgroup haddress
    rw [ensurePath, hroute, pathNames_intercalate hspelled, descend_of_follow? hfollow] at h
    cases h
    rfl
  · rintro rfl
    exact (follow?_of_ensurePath ht h hgroup).2

end Address

end Breakpoints.GroupTree
