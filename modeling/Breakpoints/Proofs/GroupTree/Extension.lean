import Breakpoints.Proofs.GroupTree.Path

/-!
What following a path adds to the groups: nothing where the path is there already, and otherwise new
groups without members, behind what was there.
-/

namespace Breakpoints.GroupTree

variable {t t' : GroupTree}

/-- Only new groups have come.  A group that was there is as it was, except that new groups may
follow its children; and the new groups are enabled and have no members. -/
structure Extended (t t' : GroupTree) : Prop where
  kept : ∀ group g, t.find? group = some g →
    ∃ more, t'.find? group = some { g with children := g.children ++ more } ∧
      ∀ child ∈ more, t.find? child = none
  came : ∀ group g, t.find? group = none → t'.find? group = some g →
    g.enabled = true ∧ g.members = ∅

namespace Extended

theorem refl (t : GroupTree) : Extended t t where
  kept group g hfind := ⟨[], by rw [List.append_nil]; exact hfind, by simp⟩
  came group g hnone hfind := by
    rw [hnone] at hfind
    contradiction

/-- What is not there later was not there before. -/
theorem find?_eq_none (h : Extended t t') {group : Nat} (hnone : t'.find? group = none) :
    t.find? group = none := by
  by_contra hsome
  obtain ⟨g, hg⟩ := Option.ne_none_iff_exists'.mp hsome
  obtain ⟨more, hkept, -⟩ := h.kept group g hg
  rw [hnone] at hkept
  contradiction

theorem trans {t'' : GroupTree} (h : Extended t t') (h' : Extended t' t'') : Extended t t'' where
  kept group g hfind := by
    obtain ⟨first, hfirst, hnew⟩ := h.kept group g hfind
    obtain ⟨second, hsecond, hnewer⟩ := h'.kept group _ hfirst
    refine ⟨first ++ second, by rw [hsecond, List.append_assoc], fun child hchild => ?_⟩
    rcases List.mem_append.mp hchild with hlisted | hlisted
    · exact hnew child hlisted
    · exact h.find?_eq_none (hnewer child hlisted)
  came group g hnone hfind := by
    cases hmiddle : t'.find? group with
    | none => exact h'.came group g hmiddle hfind
    | some early =>
        -- the group came first and may have got children since
        obtain ⟨more, hkept, -⟩ := h'.kept group early hmiddle
        rw [hkept] at hfind
        cases hfind
        exact h.came group early hnone hmiddle

theorem create (ht : t.Numbered) {name : String} {parent group : Nat}
    (h : t.create name parent = .ok (group, t')) : Extended t t' where
  kept x g hfind := by
    have hne : x ≠ t.nextId := Nat.ne_of_lt (ht x (contains_eq_true_iff.mpr ⟨g, hfind⟩))
    refine ⟨_, by rw [find?_create_of_ne h hne, hfind, Option.map_some], fun child hchild => ?_⟩
    split at hchild
    · rw [List.mem_singleton.mp hchild]
      by_contra hsome
      obtain ⟨g, hg⟩ := Option.ne_none_iff_exists'.mp hsome
      exact Nat.lt_irrefl _ (ht _ (contains_eq_true_iff.mpr ⟨g, hg⟩))
    · contradiction
  came x g hnone hfind := by
    by_cases hnew : x = t.nextId
    · rw [find?_create h, if_pos hnew] at hfind
      cases hfind
      exact ⟨rfl, rfl⟩
    · rw [find?_create_of_ne h hnew, hnone] at hfind
      contradiction

theorem descend (ht : t.Numbered) {names : List String} {group found : Nat}
    (h : t.descend group names = .ok (found, t')) : Extended t t' := by
  induction names generalizing t group with
  | nil =>
      cases h
      exact .refl _
  | cons name names ih =>
      rw [GroupTree.descend] at h
      split at h
      next => exact ih ht h
      next =>
        split at h
        · contradiction
        next child grown hcreate =>
          exact (create ht hcreate).trans (ih ((Reshaped.create hcreate).numbered ht) h)

/-- Following a path adds to the groups what is missing. -/
theorem ensurePath (ht : t.Numbered) {path : String} {found : Nat}
    (h : t.ensurePath path = .ok (found, t')) : Extended t t' :=
  descend ht h

end Extended

/-- Whether all names lead downward from a group. -/
def reaches (t : GroupTree) (group : Nat) : List String → Bool
  | [] => true
  | name :: names =>
    match t.childNamed? group name with
    | some child => reaches t child names
    | none => false

/-- Whether all groups on a path are there. -/
def hasPath (t : GroupTree) (path : String) : Bool :=
  t.reaches root (pathNames path)

theorem descend_of_reaches {names : List String} {group : Nat}
    (h : t.reaches group names = true) : ∃ found, t.descend group names = .ok (found, t) := by
  induction names generalizing group with
  | nil => exact ⟨group, rfl⟩
  | cons name names ih =>
      rw [reaches] at h
      rw [GroupTree.descend]
      cases hchild : t.childNamed? group name with
      | none =>
          rw [hchild] at h
          contradiction
      | some child =>
          rw [hchild] at h
          exact ih h

/-- A path that is there is followed without a change. -/
theorem ensurePath_of_hasPath {path : String} (h : t.hasPath path = true) :
    ∃ found, t.ensurePath path = .ok (found, t) :=
  descend_of_reaches h

/-- A breakpoint that comes to a group and leaves it again leaves no trace. -/
theorem removeMember_moveMember {id group : Nat} (h : t.moveMember id none group = .ok t')
    (hnew : t.isMember group id = false) : (t'.removeMember group id).2 = t := by
  unfold moveMember at h
  split at h
  next hgroup =>
    cases h
    obtain ⟨g, hg⟩ := contains_eq_true_iff.mp hgroup
    have hsame : { g with members := (g.members.add id).remove id } = g := by
      rw [isMember, hg] at hnew
      rw [IdSet.remove_add hnew]
    have hgroups : (((t.modify group fun g => { g with members := g.members.add id }).modify group
        fun g => { g with members := g.members.remove id })).groups = t.groups := by
      apply Table.ext_find?
      intro j
      change GroupTree.find? _ j = t.find? j
      rw [find?_modify, find?_modify, find?_modify]
      split
      next heq =>
        rw [heq, if_pos rfl, hg]
        exact congrArg some hsame
      next => rfl
    exact congrArg (fun groups => { t with groups }) hgroups
  next => contradiction

end Breakpoints.GroupTree
