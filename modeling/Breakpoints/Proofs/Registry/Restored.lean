import Breakpoints.Proofs.GroupTree.Address
import Breakpoints.Proofs.Registry.Restoration

/-!
What setting up a breakpoint from a record leaves, whatever the record is: one new breakpoint, from
which the record can be read again with its filters and its path as they were understood.  It is in
the group that the path leads to, which is the group that the path was taken from only if all names
on the way down are found again.
-/

namespace Breakpoints

namespace Kit

variable {kit : Kit}

/-- Each kind that has a constructor has the usual one. -/
def Usual (kit : Kit) : Prop :=
  ∀ kind constructor, kit.constructors kind = some constructor →
    standard.constructors kind = some constructor

theorem Usual.faithful (h : kit.Usual) : kit.Faithful :=
  fun kind constructor hfound => standard_faithful kind constructor (h kind constructor hfound)

theorem Usual.plain (h : kit.Usual) : kit.Plain :=
  fun kind constructor hfound => standard_plain kind constructor (h kind constructor hfound)

end Kit

namespace Registry

variable {τ : Type} [Target τ] {m m' : Registry τ} {record : Record} {id : Nat}

section Restore

/-- What a record that is restored comes to before it may be bound: the groups on its path are there,
and a breakpoint was made of it and put into the last of them. -/
theorem restore_places (h : m.restore record = (.ok id, m')) :
    ∃ group grown bp groups, m.groups.ensurePath record.groupPath = .ok (group, grown) ∧
      record.Makes m.kit m.nextId group m.settings bp ∧
      grown.moveMember m.nextId none group = .ok groups ∧
      m.restore record =
        resolveNew { m.store bp m.nextId with nextId := m.nextId + 1, groups } m.nextId := by
  rw [h]
  rw [restore] at h
  split at h
  · cases h
  next conditions hconditions =>
    split at h
    · cases h
    next monitors hmonitors =>
      split at h
      · cases h
      next group grown hpath =>
        split at h
        · cases h
        next new after hinsert =>
          obtain ⟨rfl, made, bp, groups, hmake, hbp, hgroups, rfl⟩ := insert_eq_ok hinsert
          exact ⟨group, grown, bp, groups, hpath,
            ⟨conditions, monitors, made, hconditions, hmonitors, hmake, hbp⟩, hgroups, h.symm⟩

/-- What has happened when a record was restored: its breakpoint is in the group that its path leads
to, and it may have been bound. -/
theorem restore_eq_ok (h : m.restore record = (.ok id, m')) :
    id = m.nextId ∧ ∃ group grown bp binding,
      m.groups.ensurePath record.groupPath = .ok (group, grown) ∧
      record.Makes m.kit m.nextId group m.settings bp ∧
      grown.moveMember m.nextId none group = .ok m'.groups ∧
      ∀ j, m'.find? j = if j = m.nextId then some { bp with binding } else m.find? j := by
  obtain ⟨group, grown, bp, groups, hpath, hmakes, hgroups, hrestore⟩ := restore_places h
  have hplaced : ∀ j, find? { m.store bp m.nextId with nextId := m.nextId + 1, groups } j =
      if j = m.nextId then some bp else m.find? j := find?_of_insert rfl
  rw [hrestore] at h
  obtain ⟨rfl, rfl, binding, hfind⟩ := resolveNew_eq_ok ((hplaced m.nextId).trans (if_pos rfl)) h
  refine ⟨rfl, group, grown, bp, binding, hpath, hmakes, hgroups, fun j => ?_⟩
  rw [hfind j]
  split
  next => rfl
  next hne => exact (hplaced j).trans (if_neg hne)

/-- A breakpoint that was restored is in the group that the path of its record leads to. -/
theorem isMember_restore {group : Nat} {grown : GroupTree}
    (hpath : m.groups.ensurePath record.groupPath = .ok (group, grown))
    (h : m.restore record = (.ok id, m')) : m'.groups.isMember group id = true := by
  obtain ⟨rfl, _, _, _, _, hsame, -, hgroups, -⟩ := restore_eq_ok h
  rw [hpath] at hsame
  cases hsame
  exact (GroupTree.isMember_moveMember hgroups group m.nextId).mpr (.inl ⟨rfl, rfl⟩)

/-- What was restored is new and was never hit.  Its record is the one that was restored, with the
filters as they were read and the path as it was followed; it comes last, and no other breakpoint
has changed. -/
theorem restore_recaptures (hm : m.Sound) (hkit : m.kit.Faithful) (hplain : m.kit.Plain)
    (h : m.restore record = (.ok id, m')) :
    id = m.nextId ∧ m.find? id = none ∧
    ∃ bp classFilters threadFilters,
      FilterList.readOptional record.classFilters = .ok classFilters ∧
      FilterList.readOptional record.threadFilters = .ok threadFilters ∧
      m'.find? id = some bp ∧
      bp.destroyed = false ∧ bp.expired = false ∧ bp.stopCount = 0 ∧
      m'.recordOf bp = { record with
        classFilters := classFilters.map (·.text)
        threadFilters := threadFilters.map (·.text)
        groupPath := GroupTree.followedPath record.groupPath } ∧
      m'.records = m.records ++ [m'.recordOf bp] ∧
      ∀ j, j ≠ id → m'.find? j = m.find? j := by
  have hm' : m'.Sound := by
    have hleads : Leads (.drifting fun _ => True) m (m.restore record).2 :=
      restore_leads hkit record
    rw [h] at hleads
    exact hm.leads hplain hleads
  obtain ⟨rfl, group, grown, bp, binding, hpath, hmakes, hgroups, hfind⟩ := restore_eq_ok h
  have hfresh := hmakes.fresh hkit
  obtain ⟨classFilters, threadFilters, hclass, hthread, hcapture⟩ := hmakes.capture hplain
  obtain ⟨hshaped, hgrows, hgroup, hfollowed⟩ := GroupTree.ensurePath_followed hm.shaped hpath
  have hstay : GroupTree.Grows grown m'.groups := .of_sameShape (.moveMember hgroups)
  have hend : m'.groups.path bp.group = some (GroupTree.followedPath record.groupPath) := by
    rw [hfresh.group_eq, hstay.path hshaped hgroup, hfollowed]
  refine ⟨rfl, hm.orderly.find?_nextId, { bp with binding }, classFilters, threadFilters, hclass,
    hthread, ?_, hfresh.destroyed_eq, hfresh.expired_eq, hfresh.stopCount_eq, ?_, ?_,
    fun j hj => ?_⟩
  · rw [hfind, if_pos rfl]
  · rw [← hcapture, recordOf]
    dsimp only
    rw [hend]
    rfl
  · apply records_of_new hm.orderly hm'.orderly
    intro j
    split
    next heq => rw [heq, recordOf?, hfind, if_pos rfl, Option.map_some]
    next hne =>
      apply recordOf?_of_grows hm (hgrows.trans hstay)
      rw [hfind, if_neg hne]
  · rw [hfind, if_neg hj]

end Restore

/-- The path of a group leads to a group again, whose path has the same names without the empty
ones.  It is the same group, and none is created, exactly if for every group down to it, the root
left aside, the name is not empty and has no slash in it, and no earlier child of the same parent
bears it.  A breakpoint that is restored from a record with this path comes to the group that the
path leads to. -/
theorem edited_path_leads (edits : List GroupTree.Edit) {group : Nat}
    (hgroup : (GroupTree.initial.edited edits).contains group = true) :
    let t := GroupTree.initial.edited edits
    ∃ path found t',
      t.path group = some path ∧
      t.ensurePath path = .ok (found, t') ∧
      t'.path found =
        some (String.intercalate "/" (GroupTree.rootName :: GroupTree.pathNames path)) ∧
      (found = group ↔ ∀ x ∈ t.ancestors group, x ≠ GroupTree.root → t.Addressable x) ∧
      (found = group → t' = t) ∧
      ∀ (m m' : Registry τ) (record : Record) (id : Nat), m.groups = t → record.groupPath = path →
        m.restore record = (.ok id, m') → m'.groups.isMember found id = true := by
  intro t
  have ht : t.Shaped := (GroupTree.Shaped.initial.edited edits).1
  obtain ⟨found, t', hleads, -, -, -, hfollowed⟩ :=
    GroupTree.ensurePath_eq_ok ht (String.intercalate "/" (t.route group))
  obtain ⟨hfound, hstay⟩ := GroupTree.ensurePath_path ht hgroup hleads
  refine ⟨_, found, t', GroupTree.path_eq hgroup, hleads, hfollowed, hfound, hstay, ?_⟩
  rintro m m' record id hm hpath hrestore
  exact isMember_restore (by rw [hm, hpath, hleads]) hrestore

/-- A group below another one is found again, and a breakpoint is restored to it. -/
theorem edited_path_leads_back :
    let t := GroupTree.initial.edited
      [.create "server" GroupTree.root, .create "io" GroupTree.root, .move 2 1]
    let m := (create ScriptedTarget.initial .standard .standard).run
      [.createGroup "server" GroupTree.root, .createGroup "io" GroupTree.root, .moveGroup 2 1]
    let record : Record :=
      ⟨.uncaughtException, true, 0, 0, false, .all, none, none, "Default/server/io", [], [], ∅⟩
    t.contains 2 = true ∧ t.path 2 = some "Default/server/io" ∧
      t.ensurePath "Default/server/io" = .ok (2, t) ∧
      (m.restore record).2.groups.isMember 2 1 = true := by
  intro t m record
  have hgroup : t.contains 2 = true := by rfl
  have hknown : t.path 2 = some "Default/server/io" := by rfl
  obtain ⟨path, found, t', hpath, hleads, -, hfound, hstay, hrestores⟩ :=
    edited_path_leads (τ := ScriptedTarget)
      [.create "server" GroupTree.root, .create "io" GroupTree.root, .move 2 1] hgroup
  have hsame : path = "Default/server/io" := Option.some.inj (hpath.symm.trans hknown)
  have haddress : ∀ x ∈ t.ancestors 2, x ≠ GroupTree.root → t.Addressable x := by
    have hancestors : t.ancestors 2 = [2, 1, GroupTree.root] := by rfl
    rw [hancestors]
    simp only [List.forall_mem_cons, ne_eq, not_true_eq_false, false_implies, List.not_mem_nil,
      implies_true, and_true]
    refine ⟨fun _ => ?_, fun _ => ?_⟩
    · exact ⟨1, "io", [], [], rfl, rfl, ⟨by decide, by decide⟩, rfl, by simp⟩
    · exact ⟨GroupTree.root, "server", [], [], rfl, rfl, ⟨by decide, by decide⟩, rfl, by simp⟩
  have hback : found = 2 := hfound.mpr haddress
  rw [hsame, hstay hback, hback] at hleads
  have hrestore : m.restore record = (.ok 1, (m.restore record).2) :=
    Prod.ext (by decide +kernel) rfl
  have hmember := hrestores m (m.restore record).2 record 1 rfl hsame.symm hrestore
  rw [hback] at hmember
  exact ⟨hgroup, hknown, hleads, hmember⟩

/-- A name with a slash in it is read as two names, an empty name as none, and a name that comes
twice leads to the first group that bears it. -/
theorem edited_path_leads_elsewhere :
    let slashed := GroupTree.initial.edited [.create "a/b" GroupTree.root]
    let unnamed := GroupTree.initial.edited [.create "" GroupTree.root]
    let twins := GroupTree.initial.edited
      [.create "a" GroupTree.root, .create "a" GroupTree.root]
    slashed.path 1 = some "Default/a/b" ∧
      (slashed.ensurePath "Default/a/b").map (·.1) = .ok 3 ∧
    unnamed.path 1 = some "Default/" ∧
      (unnamed.ensurePath "Default/").map (·.1) = .ok GroupTree.root ∧
    twins.path 2 = some "Default/a" ∧ (twins.ensurePath "Default/a").map (·.1) = .ok 1 := by
  decide +kernel

/-- A record that is restored gives one breakpoint, which has a new id, is live and not expired, and
was never hit.  Read again, its record is the same but for three members: the filters are the texts
of the lists that were read, with no list where the text was blank; and the path is that of the
group, from the root and without empty names.  This record comes last, and no other breakpoint has
changed.  The record may be any; the kit has no constructors but the usual ones. -/
theorem run_restored (target : τ) {kit : Kit} (hkit : kit.Usual) (settings : Settings)
    (moves : List (Move τ)) (record : Record) {id : Nat} {m' : Registry τ}
    (h : ((create target kit settings).run moves).restore record = (.ok id, m')) :
    let m := (create target kit settings).run moves
    id = m.nextId ∧ m.find? id = none ∧
    ∃ bp classFilters threadFilters,
      FilterList.readOptional record.classFilters = .ok classFilters ∧
      FilterList.readOptional record.threadFilters = .ok threadFilters ∧
      m'.find? id = some bp ∧
      bp.destroyed = false ∧ bp.expired = false ∧ bp.stopCount = 0 ∧
      m'.recordOf bp = { record with
        classFilters := classFilters.map (·.text)
        threadFilters := threadFilters.map (·.text)
        groupPath := String.intercalate "/"
          (GroupTree.rootName :: GroupTree.pathNames record.groupPath) } ∧
      m'.records = m.records ++ [m'.recordOf bp] ∧
      ∀ j, j ≠ id → m'.find? j = m.find? j := by
  intro m
  have hrun : Leads (.drifting fun _ => True) (create target kit settings) m :=
    run_leads hkit.faithful (create_orderly target kit settings) fun move _ =>
      Move.within_drifting fun _ _ => trivial
  have hm : m.Sound := (Sound.create target kit settings).leads hkit.plain hrun
  have hsame : m.kit = kit := hrun.kit_eq
  exact restore_recaptures hm (hsame ▸ hkit.faithful) (hsame ▸ hkit.plain) h

/-- A record with a filter list in another spelling, a blank one, and an empty name in its path. -/
theorem run_restored_respelled :
    let kit := Kit.standard.equip (fun _ _ => .ok true) fun _ _ => .ok ()
    let m := (create ScriptedTarget.initial kit .standard).run [.createGroup "x" GroupTree.root]
    let record : Record :=
      ⟨.uncaughtException, true, 2, 5, true, .all, some " a* , b ", some " ", "x//y", ["n > 1"],
        ["log"], ∅⟩
    ∃ m', m.restore record = (.ok 1, m') ∧ m'.records = [{ record with
      classFilters := some "a*,b", threadFilters := none, groupPath := "Default/x/y" }] := by
  intro kit m record
  have hkit : kit.Usual := fun _ _ hfound => hfound
  have hrestore : m.restore record = (.ok 1, (m.restore record).2) :=
    Prod.ext (by decide +kernel) rfl
  have hbefore : m.records = [] := by rfl
  obtain ⟨-, -, _, classFilters, threadFilters, hclass, hthread, -, -, -, -, hrecord, hrecords,
    -⟩ := run_restored ScriptedTarget.initial hkit .standard [.createGroup "x" GroupTree.root]
      record hrestore
  have hlist : FilterList.readOptional record.classFilters =
      .ok (some ⟨[.startsWith "a", .exact "b"]⟩) := by rfl
  have hblank : FilterList.readOptional record.threadFilters = .ok none := by rfl
  rw [hlist] at hclass
  rw [hblank] at hthread
  cases hclass
  cases hthread
  have htext : (⟨[.startsWith "a", .exact "b"]⟩ : FilterList).text = "a*,b" := by rfl
  have hpath : String.intercalate "/" (GroupTree.rootName :: GroupTree.pathNames "x//y") =
      "Default/x/y" := by decide +kernel
  refine ⟨_, hrestore, ?_⟩
  rw [hrecords, hrecord, Option.map_some, Option.map_none, htext, hpath]
  exact congrArg (· ++ _) hbefore

end Registry

end Breakpoints
