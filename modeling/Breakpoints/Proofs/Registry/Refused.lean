import Breakpoints.Proofs.GroupTree.Extension
import Breakpoints.Proofs.Registry.Creation
import Breakpoints.Proofs.Registry.Membership
import Breakpoints.Proofs.Target.Loading

/-!
Records that are refused.  Whatever keeps a record from being restored, no breakpoint comes of it
and the target is not touched.  Its path may have been followed by then, and the groups that this
created stay.
-/

namespace Breakpoints.Registry

variable {τ : Type} {m m' : Registry τ} {e : Failure}

/-- An id is used up, and nothing else. -/
theorem insert_refused {spec : Spec} {group : Nat}
    {configure : Breakpoint → Except Failure Breakpoint}
    (h : m.insert spec group configure = (.error e, m')) :
    m' = { m with nextId := m.nextId + 1 } := by
  simp only [insert] at h
  split at h
  · cases h
    rfl
  split at h
  · cases h
    rfl
  split at h
  · cases h
    rfl
  · cases h

variable [Target τ]

/-- A new breakpoint that is taken back has never been there. -/
theorem destroy_new (hm : m.Orderly) {group : Nat} {bp : Breakpoint} {groups : GroupTree}
    {made : Registry τ} (hfresh : bp.Fresh m.nextId group)
    (hmove : m.groups.moveMember m.nextId none group = .ok groups)
    (hnew : m.groups.isMember group m.nextId = false)
    (hmade : made = { m.store bp m.nextId with nextId := m.nextId + 1, groups }) :
    (made.destroy m.nextId).2 = { m with nextId := m.nextId + 1 } := by
  have hfind : made.find? m.nextId = some bp := by
    rw [hmade]
    exact Table.find?_insert_self _ _ _
  have hbreakpoints : (m.breakpoints.insert m.nextId bp).erase m.nextId = m.breakpoints := by
    rw [Table.erase_insert, Table.erase_of_find?_eq_none hm.find?_nextId]
  have hgroups : (groups.removeMember bp.group m.nextId).2 = m.groups := by
    rw [hfresh.group_eq, GroupTree.removeMember_moveMember hmove hnew]
  rw [destroy_of_unbound hfind hfresh.binding_eq, hmade]
  simp only [store, hbreakpoints, hgroups]

/-- A new breakpoint that does not stay leaves nothing. -/
theorem resolveNew_refused (hm : m.Orderly) {group : Nat} {bp : Breakpoint} {groups : GroupTree}
    {made : Registry τ} (hfresh : bp.Fresh m.nextId group)
    (hmove : m.groups.moveMember m.nextId none group = .ok groups)
    (hnew : m.groups.isMember group m.nextId = false)
    (hmade : made = { m.store bp m.nextId with nextId := m.nextId + 1, groups })
    (h : made.resolveNew m.nextId = (.error e, m')) : m' = { m with nextId := m.nextId + 1 } := by
  have hfind : made.find? m.nextId = some bp := by
    rw [hmade]
    exact Table.find?_insert_self _ _ _
  by_cases hbinds : made.settings.resolveOnCreate = true
  · rw [resolveNew_eq hbinds hfind hfresh.destroyed_eq hfresh.binding_eq] at h
    split at h
    · cases h
      exact destroy_new hm hfresh hmove hnew hmade
    · cases h
  · rw [resolveNew, if_neg hbinds] at h
    cases h

/-- Once the path has been followed, an id is used up, and nothing else. -/
theorem restore_refused (hm : m.Orderly) (hgrouped : Grouped (fun _ => False) m)
    (hkit : m.kit.Faithful) {record : Record} (h : m.restore record = (.error e, m')) :
    m' = m ∨ ∃ found groups, m.groups.ensurePath record.groupPath = .ok (found, groups) ∧
      m' = { m with groups, nextId := m.nextId + 1 } := by
  rw [restore] at h
  split at h
  · cases h
    exact .inl rfl
  split at h
  · cases h
    exact .inl rfl
  split at h
  · cases h
    exact .inl rfl
  next conditions _ _ monitors _ _ group groups hpath =>
    have hleads : Leads (.drifting fun _ => True) m { m with groups } :=
      regroup_leads (GroupTree.ensurePath_reshaped hpath)
    have hwaiting : Orderly { m with groups } := hleads.orderly hm
    refine .inr ⟨group, groups, hpath, ?_⟩
    split at h
    next hinsert =>
      cases h
      exact insert_refused hinsert
    next hinsert =>
      obtain ⟨rfl, made, bp, members, hmake, hconfigure, hmove, rfl⟩ := insert_eq_ok hinsert
      have hfresh : bp.Fresh m.nextId group :=
        Record.configure_fresh (Kit.make_fresh hkit hmake) hconfigure
      have hnew : groups.isMember group m.nextId = false :=
        (hgrouped.leads hm hleads).not_isMember hwaiting.find?_nextId group
      exact resolveNew_refused hwaiting hfresh hmove hnew rfl h

/-- Without an evaluator there is no condition, and without a command sink no monitor. -/
theorem restore_unmade {record : Record}
    (hunmade : (record.conditions ≠ [] ∧ m.kit.evaluator = none) ∨
      (record.monitors ≠ [] ∧ m.kit.commandSink = none)) : (m.restore record).2 = m := by
  rw [restore]
  rcases hunmade with ⟨hne, hnone⟩ | ⟨hne, hnone⟩
  · have hfails : ∀ text condition, m.kit.makeCondition text ≠ .ok condition := by
      simp [Kit.makeCondition, hnone]
    obtain ⟨e, he⟩ := exists_mapM_eq_error hne hfails
    rw [he]
  · have hfails : ∀ text monitor, m.kit.makeMonitor text ≠ .ok monitor := by
      simp [Kit.makeMonitor, hnone]
    obtain ⟨e, he⟩ := exists_mapM_eq_error hne hfails
    split
    · rfl
    · rw [he]

/-- A record that is refused leaves no breakpoint, no member of a group, no request and nothing in
the target.  If its conditions or its monitors cannot be made, nothing at all has changed.  In any
other case its path may have been followed and an id is used up: then the groups are as following
the path left them, which adds nothing where the path was there already. -/
theorem run_refuses (target : τ) {kit : Kit} (hkit : kit.Faithful) (settings : Settings)
    (moves : List (Move τ)) (record : Record) :
    let m := (create target kit settings).run moves
    ∀ e m', m.restore record = (.error e, m') →
      ((record.conditions ≠ [] ∧ kit.evaluator = none) ∨
        (record.monitors ≠ [] ∧ kit.commandSink = none) → m' = m) ∧
      (m' = m ∨ ∃ found groups, m.groups.ensurePath record.groupPath = .ok (found, groups) ∧
        m' = { m with groups, nextId := m.nextId + 1 } ∧ m.groups.Extended groups ∧
        (m.groups.hasPath record.groupPath = true → groups = m.groups)) := by
  intro m e m' h
  have hempty : (create target kit settings).Orderly := create_orderly target kit settings
  have hleads : Leads (.drifting fun _ => True) (create target kit settings) m :=
    create_leads target hkit settings fun _ _ => trivial
  have hm : m.Orderly := hleads.orderly hempty
  have hkept : m.kit = kit := hleads.kit_eq
  have hgrouped : Grouped (fun _ => False) m :=
    (Grouped.create target kit settings).leads hempty hleads
  refine ⟨fun hunmade => ?_, ?_⟩
  · rw [← hkept] at hunmade
    have hleft := restore_unmade hunmade
    rwa [h] at hleft
  · rcases restore_refused hm hgrouped (hkept ▸ hkit) h with hsame | ⟨found, groups, hpath, hleft⟩
    · exact .inl hsame
    · have hextended : m.groups.Extended groups := .ensurePath hgrouped.numbered hpath
      refine .inr ⟨found, groups, hpath, hleft, hextended, fun hthere => ?_⟩
      obtain ⟨_, hsame⟩ := GroupTree.ensurePath_of_hasPath hthere
      rw [hpath] at hsame
      cases hsame
      rfl

/-- A record of a method that is ambiguous is refused, and only an id is used up if its group is
there. -/
theorem run_refuses_ambiguous :
    let m := (create ScriptedTarget.initial .standard .standard).run
      [.createGroup "io" GroupTree.root,
        .outside fun t => (t.define ⟨"A", "A.java", [.method "f" [], .method "f" ["int"]]⟩).2]
    let record : Record := ⟨.method ⟨"A", "f", .any⟩, true, 0, 0, false, .all, none, none,
      "Default/io", [], [], ∅⟩
    (m.restore record).1 = .error (.ambiguousOverload "A" "f" 2) ∧
      (m.restore record).2 = { m with nextId := 2 } := by
  intro m record
  have hrefused : (m.restore record).1 = .error (.ambiguousOverload "A" "f" 2) := by
    decide +kernel
  refine ⟨hrefused, ?_⟩
  obtain ⟨-, hleft⟩ := run_refuses ScriptedTarget.initial Kit.standard_faithful .standard
    [.createGroup "io" GroupTree.root,
      .outside fun t => (t.define ⟨"A", "A.java", [.method "f" [], .method "f" ["int"]]⟩).2]
    record _ _ (Prod.ext hrefused rfl)
  rcases hleft with hsame | ⟨found, groups, -, hleft, -, hthere⟩
  · have hnext : (m.restore record).2.nextId = 2 := by decide +kernel
    have hbefore : (m.restore record).2.nextId = 1 := congrArg nextId hsame
    omega
  · have hgroups : groups = m.groups := hthere (by decide +kernel)
    rw [hgroups] at hleft
    exact hleft

/-- A refused record may leave more than that.  Where a filter is malformed, the group that its path
asked for has come by then; and where a constructor puts the breakpoint into another group than it
was asked for, the breakpoint leaves that group and stays a member of the first. -/
theorem restore_leaves :
    let stray : Constructor := fun id spec _ settings =>
      Kit.construct id spec GroupTree.root settings
    let m := create ScriptedTarget.initial .standard .standard
    let straying := (create ScriptedTarget.initial (Kit.standard.register .method stray)
      .standard).run
      [.createGroup "io" GroupTree.root,
        .outside fun t => (t.define ⟨"A", "A.java", [.method "f" [], .method "f" ["int"]]⟩).2]
    let malformed : Record := ⟨.uncaughtException, true, 0, 0, false, .all, some "a*b", none,
      "Default/io", [], [], ∅⟩
    let ambiguous : Record := ⟨.method ⟨"A", "f", .any⟩, true, 0, 0, false, .all, none, none,
      "Default/io", [], [], ∅⟩
    ((m.restore malformed).1 = .error (.malformedFilter "a*b") ∧
      m.groups.contains 1 = false ∧ (m.restore malformed).2.groups.contains 1 = true) ∧
    ((straying.restore ambiguous).1 = .error (.ambiguousOverload "A" "f" 2) ∧
      straying.groups.isMember 1 1 = false ∧
      (straying.restore ambiguous).2.groups.isMember 1 1 = true) :=
  ⟨⟨rfl, rfl, rfl⟩, rfl, rfl, rfl⟩

end Breakpoints.Registry
