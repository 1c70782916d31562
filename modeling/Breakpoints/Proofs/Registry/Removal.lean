import Breakpoints.Proofs.Registry.Apart

/-!
Removing a group with the breakpoints in it.  The groups go first, and the breakpoints are destroyed
one by one when their groups are gone already.  So what is left is described for a row of
destructions: for each part of the registry, the same as doing away with one row of keys.
-/

namespace Breakpoints

/-- The target after a row of requests was cleared. -/
def Target.clearEach {τ : Type} [Target τ] (t : τ) (requests : List Int) : τ :=
  requests.foldl (fun t request => (clear t request).2) t

namespace ScriptedTarget

theorem bare_clearEach (t : ScriptedTarget) (requests : List Int) :
    (Target.clearEach t requests).bare = t.bare := by
  induction requests generalizing t with
  | nil => rfl
  | cons request requests ih => exact (ih _).trans (bare_clear t request)

theorem find?_clearEach {t : ScriptedTarget} (hconnected : t.disconnected = false)
    (requests : List Int) (k : Int) :
    (Target.clearEach t requests).requests.find? k =
      if k ∈ requests then none else t.requests.find? k := by
  induction requests generalizing t with
  | nil => simp [Target.clearEach]
  | cons request requests ih =>
      have hstill : (t.clear request).2.disconnected = false := by
        rw [disconnected_eq_of_bare (bare_clear t request), hconnected]
      have hrest := ih hstill
      rw [find?_clear hconnected] at hrest
      refine hrest.trans ?_
      by_cases hk : k = request
      · simp [hk]
      · simp [hk]

/-- Those of the requests that are active are cleared, each once. -/
theorem cleared_clearEach {t : ScriptedTarget} (hconnected : t.disconnected = false)
    {requests : List Int} (hnodup : requests.Nodup) :
    (Target.clearEach t requests).cleared =
      t.cleared ++ requests.filter t.requests.contains := by
  induction requests generalizing t with
  | nil => simp [Target.clearEach]
  | cons request requests ih =>
      obtain ⟨hnew, hrest⟩ := List.nodup_cons.mp hnodup
      have hstill : (t.clear request).2.disconnected = false := by
        rw [disconnected_eq_of_bare (bare_clear t request), hconnected]
      have hsame : requests.filter (t.clear request).2.requests.contains =
          requests.filter t.requests.contains := by
        refine List.filter_congr fun other hother => ?_
        have hne : other ≠ request := ne_of_mem_of_not_mem hother hnew
        rw [Table.contains, find?_clear hconnected, if_neg hne, Table.contains]
      refine (ih hstill hrest).trans ?_
      rw [hsame, cleared_clear hconnected, List.append_assoc, List.filter_cons]
      split
      · rfl
      · rfl

end ScriptedTarget

namespace Registry

section Row

variable {τ : Type} {m : Registry τ}

/-- The requests that breakpoints are bound to. -/
def requestsOf (m : Registry τ) (ids : List Nat) : List Int :=
  ids.filterMap m.requestOf?

theorem requestsOf_cons (m : Registry τ) (id : Nat) (ids : List Nat) :
    m.requestsOf (id :: ids) = (m.requestOf? id).toList ++ m.requestsOf ids := by
  rw [requestsOf, List.filterMap_cons]
  cases m.requestOf? id with
  | none => rfl
  | some request => rfl

theorem requestsOf_congr {m' : Registry τ} {ids : List Nat}
    (h : ∀ id ∈ ids, m'.find? id = m.find? id) : m'.requestsOf ids = m.requestsOf ids :=
  List.filterMap_congr fun id hid => by rw [requestOf?, h id hid, requestOf?]

variable [Target τ]

/-- One destruction frees one request, or none. -/
theorem destroy_frees (m : Registry τ) (id : Nat) :
    (m.destroy id).2.target = Target.clearEach m.target (m.requestOf? id).toList ∧
      (m.destroy id).2.requests = (m.requestOf? id).toList.foldl Table.erase m.requests := by
  cases hfind : m.find? id with
  | none =>
      have hnone : m.requestOf? id = none := by rw [requestOf?, hfind, Option.bind_none]
      rw [destroy_of_none hfind, hnone]
      exact ⟨rfl, rfl⟩
  | some bp =>
      cases hbinding : bp.binding with
      | none =>
          rw [destroy_of_unbound hfind hbinding, requestOf?_of_unbound hfind hbinding]
          exact ⟨rfl, rfl⟩
      | some binding =>
          rw [destroy_of_bound hfind hbinding, requestOf?_of_bound hfind hbinding]
          exact ⟨rfl, rfl⟩

/-- Breakpoints that are destroyed one after another free the requests that they were bound to at
the beginning. -/
theorem foldl_destroy_frees {ids : List Nat} (hnodup : ids.Nodup) :
    (ids.foldl (fun m id => (m.destroy id).2) m).target =
        Target.clearEach m.target (m.requestsOf ids) ∧
      (ids.foldl (fun m id => (m.destroy id).2) m).requests =
        (m.requestsOf ids).foldl Table.erase m.requests := by
  induction ids generalizing m with
  | nil => exact ⟨rfl, rfl⟩
  | cons id ids ih =>
      obtain ⟨hnew, hrest⟩ := List.nodup_cons.mp hnodup
      have hsame : (m.destroy id).2.requestsOf ids = m.requestsOf ids := by
        refine requestsOf_congr fun other hother => ?_
        rw [find?_destroy, if_neg (ne_of_mem_of_not_mem hother hnew)]
      obtain ⟨htarget, hrequests⟩ := ih hrest
      obtain ⟨hfirst, hroute⟩ := destroy_frees m id
      rw [hsame, hfirst] at htarget
      rw [hsame, hroute] at hrequests
      rw [List.foldl_cons, htarget, hrequests, requestsOf_cons]
      exact ⟨List.foldl_append.symm, List.foldl_append.symm⟩

/-- Breakpoints whose groups are gone leave the groups alone. -/
theorem foldl_destroy_groups {ids : List Nat}
    (hgone : ∀ id ∈ ids, ∀ bp, m.find? id = some bp → m.groups.contains bp.group = false) :
    (ids.foldl (fun m id => (m.destroy id).2) m).groups = m.groups := by
  induction ids generalizing m with
  | nil => rfl
  | cons id ids ih =>
      rw [List.forall_mem_cons] at hgone
      have hsame : (m.destroy id).2.groups = m.groups := by
        cases hfind : m.find? id with
        | none => rw [destroy_of_none hfind]
        | some bp =>
            rw [destroy_groups hfind]
            exact GroupTree.removeMember_of_not_contains (hgone.1 bp hfind) id
      rw [List.foldl_cons, ih, hsame]
      intro other hother bp hfind
      rw [find?_destroy] at hfind
      split at hfind
      · contradiction
      · rw [hsame]
        exact hgone.2 other hother bp hfind

section Routed

variable {drifts : (τ → τ) → Prop} {start : τ}

/-- A request is one of theirs if it leads to one of them. -/
theorem Routing.mem_requestsOf_iff (h : Routing drifts start m) (ids : List Nat) (request : Int) :
    request ∈ m.requestsOf ids ↔ ∃ id ∈ ids, m.requests.find? request = some id := by
  simp only [requestsOf, List.mem_filterMap, h.exact]

theorem Routing.requestsOf_nodup (h : Routing drifts start m) {ids : List Nat}
    (hnodup : ids.Nodup) : (m.requestsOf ids).Nodup :=
  hnodup.filterMap fun _ _ _ hi hj => h.requestOf?_inj hi hj

/-- A route leads to one of them if its request is one of theirs. -/
theorem Routing.route_filter (h : Routing drifts start m) (ids : List Nat) (request : Int) :
    (m.requests.find? request).filter (fun id => id ∉ ids) =
      if request ∈ m.requestsOf ids then none else m.requests.find? request := by
  simp only [h.mem_requestsOf_iff]
  cases m.requests.find? request with
  | none => simp
  | some id =>
      by_cases hid : id ∈ ids
      · simp [hid]
      · simp [hid]

end Routed

end Row

/-- A group is gone with all below it.  The breakpoints in these groups are gone, with their
memberships, their routes and their requests.  Everything else is as it was, except that the group
above the one that was removed no longer lists it. -/
structure Cut (group : Nat) (orphans : List Nat) (m m' : Registry ScriptedTarget) : Prop where
  breakpoints : ∀ id, m'.find? id = if id ∈ orphans then none else m.find? id
  groups : ∀ x, m'.groups.find? x =
    if x ∈ m.groups.subtree group then none
    else (m.groups.find? x).map fun g =>
      if m.groups.parentOf? group = some (some x) then GroupTree.dropChild group g else g
  members : ∀ x, ∀ id ∈ orphans, m'.groups.isMember x id = false
  routes : ∀ request,
    m'.requests.find? request = (m.requests.find? request).filter fun id => id ∉ orphans
  armed : ∀ request, m'.target.requests.find? request =
    if request ∈ m.requestsOf orphans then none else m.target.requests.find? request
  cleared : m'.target.cleared =
    m.target.cleared ++ (m.requestsOf orphans).filter m.target.requests.contains
  target : m'.target.bare = m.target.bare
  kit : m'.kit = m.kit
  settings : m'.settings = m.settings
  nextId : m'.nextId = m.nextId
  nextGroup : m'.groups.nextId = m.groups.nextId

namespace Linked

variable {start : ScriptedTarget} {m : Registry ScriptedTarget} {group : Nat} {orphans : List Nat}
  {groups : GroupTree}

/-- The orphans are the breakpoints in the groups that go, each once. -/
theorem mem_orphans_iff (h : Linked start m)
    (hremove : m.groups.remove group = .ok (orphans, groups)) (id : Nat) :
    id ∈ orphans ↔ ∃ bp, m.find? id = some bp ∧ bp.group ∈ m.groups.subtree group := by
  rw [GroupTree.mem_orphans_iff hremove]
  simp only [h.grouped.isMember_iff, not_false_eq_true, true_and, groupOf?_eq_some_iff]
  constructor
  · rintro ⟨x, hx, bp, hfind, rfl⟩
    exact ⟨bp, hfind, hx⟩
  · rintro ⟨bp, hfind, hx⟩
    exact ⟨bp.group, hx, bp, hfind, rfl⟩

theorem orphans_nodup (h : Linked start m)
    (hremove : m.groups.remove group = .ok (orphans, groups)) : orphans.Nodup := by
  refine GroupTree.orphans_nodup h.shaped hremove fun x y id hx hy => ?_
  rw [h.grouped.isMember_iff] at hx hy
  exact Option.some.inj (hx.2.symm.trans hy.2)

/-- The groups of the orphans are gone before the orphans are. -/
theorem not_contains_group (h : Linked start m)
    (hremove : m.groups.remove group = .ok (orphans, groups)) :
    ∀ id ∈ orphans, ∀ bp, m.find? id = some bp → groups.contains bp.group = false := by
  intro id hid bp hfind
  obtain ⟨found, hfound, hgone⟩ := (h.mem_orphans_iff hremove id).mp hid
  rw [hfind] at hfound
  cases hfound
  have hnone : groups.find? bp.group = none := by
    rw [GroupTree.find?_remove hremove, if_pos hgone]
  exact Table.contains_eq_false_iff.mpr hnone

/-- What is left when a group was removed. -/
theorem removeGroup_cut (h : Linked start m) (hconnected : m.target.disconnected = false)
    (hremove : m.groups.remove group = .ok (orphans, groups)) :
    Cut group orphans m (orphans.foldl (fun m id => (m.destroy id).2) { m with groups }) := by
  let m' := orphans.foldl (fun m id => (m.destroy id).2) { m with groups }
  have hnodup := h.orphans_nodup hremove
  have hfind : ∀ id, m'.find? id = if id ∈ orphans then none else m.find? id :=
    find?_foldl_destroy { m with groups } orphans
  have hgroups : m'.groups = groups :=
    foldl_destroy_groups (m := { m with groups }) (h.not_contains_group hremove)
  have hfreed : m'.target = Target.clearEach m.target (m.requestsOf orphans) ∧
      m'.requests = (m.requestsOf orphans).foldl Table.erase m.requests :=
    foldl_destroy_frees (m := { m with groups }) hnodup
  obtain ⟨hkit, hsettings, hnext⟩ := foldl_destroy_fields { m with groups } orphans
  refine ⟨hfind, fun x => ?_, fun x id hid => ?_, fun request => ?_, fun request => ?_, ?_, ?_,
    hkit, hsettings, hnext, ?_⟩
  · rw [hgroups, GroupTree.find?_remove hremove]
  · apply (h.grouped.removeGroup hremove).not_isMember
    rw [hfind, if_pos hid]
  · rw [hfreed.2, Table.find?_foldl_erase, h.routing.route_filter]
  · rw [hfreed.1, ScriptedTarget.find?_clearEach hconnected]
  · rw [hfreed.1, ScriptedTarget.cleared_clearEach hconnected (h.routing.requestsOf_nodup hnodup)]
  · rw [hfreed.1, ScriptedTarget.bare_clearEach]
  · rw [hgroups, GroupTree.nextId_remove hremove]

end Linked

/-- Whatever has happened before, as long as the target is connected and counts on the requests that
it arms: the root and a group that is not there cannot be removed, and trying it changes nothing.
Any other group is removed.  The answer lists the breakpoints in the group and in those below it,
each once and no others.  These breakpoints are gone then, with their memberships, their routes and
their requests, and so are these groups; everything else is as it was, except that the group above
no longer lists the one that was removed. -/
theorem run_removes (start : ScriptedTarget) {kit : Kit} (hkit : kit.Faithful) (settings : Settings)
    {moves : List (Move ScriptedTarget)}
    (hmoves : ∀ change, .outside change ∈ moves → ScriptedTarget.Counts change) :
    let m := (create start kit settings).run moves
    m.target.disconnected = false → ∀ group,
      (group = GroupTree.root → m.removeGroup group = (.error .rootGroup, m)) ∧
      (m.groups.contains group = false →
        m.removeGroup group = (.error (.unknownGroup group), m)) ∧
      (group ≠ GroupTree.root → m.groups.contains group = true → ∃ orphans m',
        m.removeGroup group = (.ok orphans, m') ∧
        orphans.Nodup ∧
        (∀ id, id ∈ orphans ↔
          ∃ bp, m.find? id = some bp ∧ bp.group ∈ m.groups.subtree group) ∧
        (∀ x, x ∈ m.groups.subtree group ↔
          m.groups.contains x = true ∧ group ∈ m.groups.ancestors x) ∧
        Cut group orphans m m') := by
  intro m hconnected group
  have hlinked : Linked start m :=
    (Linked.create start kit settings).leads (create_leads start hkit settings hmoves)
  refine ⟨fun hroot => ?_, fun hunknown => ?_, fun hroot hgroup => ?_⟩
  · rw [removeGroup, GroupTree.remove, if_pos hroot]
  · have hroot : group ≠ GroupTree.root := by
      rintro rfl
      rw [hlinked.shaped.contains_root] at hunknown
      contradiction
    have hnone : m.groups.find? group = none := Table.contains_eq_false_iff.mp hunknown
    rw [removeGroup, GroupTree.remove, if_neg hroot, hnone]
  · obtain ⟨g, hg⟩ := GroupTree.contains_eq_true_iff.mp hgroup
    obtain ⟨orphans, groups, hremove⟩ : ∃ orphans groups,
        m.groups.remove group = .ok (orphans, groups) := by
      rw [GroupTree.remove, if_neg hroot, hg]
      exact ⟨_, _, rfl⟩
    refine ⟨orphans, _, ?_, hlinked.orphans_nodup hremove, hlinked.mem_orphans_iff hremove,
      GroupTree.mem_subtree_iff hlinked.shaped hgroup, hlinked.removeGroup_cut hconnected hremove⟩
    rw [removeGroup, hremove]

/-- A group goes with the one below it and the breakpoints in both; the breakpoint in the root stays
with its request. -/
theorem run_removes_nested :
    let m := (create ScriptedTarget.initial .standard .standard).run
      [.createGroup "server" GroupTree.root, .createGroup "io" 1, .createSpec .uncaughtException 2,
        .createSpec .uncaughtException GroupTree.root, .createSpec .uncaughtException 1]
    ∃ orphans m', m.removeGroup 1 = (.ok orphans, m') ∧ Cut 1 orphans m m' ∧
      (∀ id, id ∈ orphans ↔ id = 1 ∨ id = 3) ∧ m'.target.cleared = [3, 1] := by
  intro m
  obtain ⟨-, -, hremoves⟩ := run_removes ScriptedTarget.initial Kit.standard_faithful .standard
    (show ∀ change, Move.outside change ∈
        [.createGroup "server" GroupTree.root, .createGroup "io" 1,
          .createSpec .uncaughtException 2, .createSpec .uncaughtException GroupTree.root,
          .createSpec .uncaughtException 1] →
      ScriptedTarget.Counts change by simp) rfl 1
  obtain ⟨orphans, m', hremove, hnodup, horphans, -, hcut⟩ := hremoves (by decide) rfl
  have hknown : (m.removeGroup 1).1 = .ok [3, 1] := by rfl
  rw [hremove] at hknown
  cases hknown
  refine ⟨_, m', hremove, hcut, fun id => ?_, ?_⟩
  · simp [or_comm]
  · rw [hcut.cleared]
    rfl

end Registry

end Breakpoints
