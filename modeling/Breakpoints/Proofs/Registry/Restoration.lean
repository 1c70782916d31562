import Breakpoints.Proofs.GroupTree.Path
import Breakpoints.Proofs.Registry.Creation
import Breakpoints.Proofs.Registry.Upkeep
import Breakpoints.Proofs.Target.Loading

/-!
Saving the breakpoints of a registry and setting them up again in a new one.  Nothing is lost but
the breakpoints whose method has become ambiguous, and the empty names in the paths of their groups.
-/

namespace Breakpoints

/-- The record with the path of the group that restoring it leads to. -/
def Record.followed (record : Record) : Record :=
  { record with groupPath := GroupTree.followedPath record.groupPath }

/-- A record that a kit can make a breakpoint from, with filters that read as they are written. -/
structure Record.Restorable (record : Record) (kit : Kit) : Prop where
  registered : kit.isRegistered record.spec.kind = true
  classFilters : FilterList.Written record.classFilters
  threadFilters : FilterList.Written record.threadFilters

theorem Breakpoint.Savable.restorable {bp : Breakpoint} {kit : Kit} (h : bp.Savable kit)
    (path : String) : (Record.capture bp path).Restorable kit where
  registered := h.registered
  classFilters := h.classFilters.written
  threadFilters := h.threadFilters.written

/-- A breakpoint that has a specification and nothing else yet. -/
structure Breakpoint.Bare (bp : Breakpoint) (spec : Spec) : Prop where
  spec_eq : bp.spec = spec
  conditions_eq : bp.conditions = []
  monitors_eq : bp.monitors = []
  properties_eq : bp.properties = ∅

/-- A record that has been applied to a bare breakpoint can be read off it, with the filters as they
were read. -/
theorem Record.capture_applied {record : Record} {made : Breakpoint} (hmade : made.Bare record.spec)
    {conditions : List Condition} (hconditions : conditions.map (·.text) = record.conditions)
    {monitors : List Monitor} (hmonitors : monitors.map (·.text) = record.monitors)
    (classFilters threadFilters : Option FilterList) (path : String) :
    capture (record.applied conditions monitors classFilters threadFilters made) path =
      { record with
        classFilters := classFilters.map (·.text)
        threadFilters := threadFilters.map (·.text)
        groupPath := path } := by
  cases record
  simp only at hmade hconditions hmonitors
  simp [capture, applied, Breakpoint.markStale, hmade.spec_eq, hmade.conditions_eq,
    hmade.monitors_eq, hmade.properties_eq, hconditions, hmonitors, Table.foldl_insert_entries]

namespace Kit

/-- The kit with an evaluator and a command sink. -/
def equip (kit : Kit) (evaluate : Evaluator) (execute : CommandSink) : Kit :=
  { kit with evaluator := some evaluate, commandSink := some execute }

/-- A kit that has an evaluator and a command sink. -/
structure Equipped (kit : Kit) : Prop where
  evaluator : kit.evaluator.isSome = true
  commandSink : kit.commandSink.isSome = true

theorem bare_of_make {kit : Kit} (hkit : kit.Plain) {id group : Nat} {spec : Spec}
    {settings : Settings} {made : Breakpoint} (hmake : kit.make id spec group settings = .ok made) :
    made.Bare spec := by
  rw [make] at hmake
  split at hmake
  next => contradiction
  next constructor hfound =>
    cases hmake
    have hplain : constructor.Plain := hkit spec.kind constructor hfound
    exact ⟨hplain.spec_eq _ _ _ _, hplain.conditions_eq _ _ _ _, hplain.monitors_eq _ _ _ _,
      hplain.properties_eq _ _ _ _⟩

theorem Equipped.makeConditions {kit : Kit} (h : kit.Equipped) (texts : List String) :
    ∃ conditions, texts.mapM kit.makeCondition = .ok conditions := by
  obtain ⟨evaluate, hevaluate⟩ := Option.isSome_iff_exists.mp h.evaluator
  have hmake : ∀ text, kit.makeCondition text = .ok (.ofExpression evaluate text) := by
    intro text
    rw [makeCondition, hevaluate]
  exact ⟨_, mapM_eq_ok_map hmake texts⟩

theorem Equipped.makeMonitors {kit : Kit} (h : kit.Equipped) (texts : List String) :
    ∃ monitors, texts.mapM kit.makeMonitor = .ok monitors := by
  obtain ⟨execute, hexecute⟩ := Option.isSome_iff_exists.mp h.commandSink
  have hmake : ∀ text, kit.makeMonitor text = .ok (.ofCommand execute text) := by
    intro text
    rw [makeMonitor, hexecute]
  exact ⟨_, mapM_eq_ok_map hmake texts⟩

/-- A condition that was made from a text has this text. -/
theorem makeConditions_eq_ok {kit : Kit} {texts : List String} {conditions : List Condition}
    (h : texts.mapM kit.makeCondition = .ok conditions) : conditions.map (·.text) = texts := by
  refine map_eq_of_mapM_eq_ok (fun text condition hmake => ?_) h
  rw [makeCondition] at hmake
  split at hmake
  · cases hmake
  · cases hmake
    rfl

theorem makeMonitors_eq_ok {kit : Kit} {texts : List String} {monitors : List Monitor}
    (h : texts.mapM kit.makeMonitor = .ok monitors) : monitors.map (·.text) = texts := by
  refine map_eq_of_mapM_eq_ok (fun text monitor hmake => ?_) h
  rw [makeMonitor] at hmake
  split at hmake
  · cases hmake
  · cases hmake
    rfl

end Kit

namespace Record

/-- The breakpoint that a kit makes of a record. -/
def Makes (record : Record) (kit : Kit) (id group : Nat) (settings : Settings) (bp : Breakpoint) :
    Prop :=
  ∃ conditions monitors made,
    record.conditions.mapM kit.makeCondition = .ok conditions ∧
    record.monitors.mapM kit.makeMonitor = .ok monitors ∧
    kit.make id record.spec group settings = .ok made ∧
    record.configure conditions monitors made = .ok bp

variable {record : Record} {kit : Kit} {id group : Nat} {settings : Settings} {bp : Breakpoint}

theorem Makes.fresh (h : record.Makes kit id group settings bp) (hkit : kit.Faithful) :
    bp.Fresh id group := by
  obtain ⟨_, _, made, -, -, hmake, hbp⟩ := h
  exact configure_fresh (Kit.make_fresh hkit hmake) hbp

/-- The record can be read off the breakpoint again, with the filters as they were read. -/
theorem Makes.capture (h : record.Makes kit id group settings bp) (hkit : kit.Plain) :
    ∃ classFilters threadFilters,
      FilterList.readOptional record.classFilters = .ok classFilters ∧
      FilterList.readOptional record.threadFilters = .ok threadFilters ∧
      ∀ path, Record.capture bp path = { record with
        classFilters := classFilters.map (·.text)
        threadFilters := threadFilters.map (·.text)
        groupPath := path } := by
  obtain ⟨conditions, monitors, made, hconditions, hmonitors, hmake, hbp⟩ := h
  obtain ⟨classFilters, threadFilters, hclass, hthread, rfl⟩ := configure_eq_ok_iff.mp hbp
  exact ⟨classFilters, threadFilters, hclass, hthread,
    capture_applied (Kit.bare_of_make hkit hmake) (Kit.makeConditions_eq_ok hconditions)
      (Kit.makeMonitors_eq_ok hmonitors) classFilters threadFilters⟩

/-- Filters that read as they are written are read off as they were. -/
theorem Makes.capture_of_restorable (h : record.Makes kit id group settings bp) (hkit : kit.Plain)
    (hrecord : record.Restorable kit) (path : String) :
    Record.capture bp path = { record with groupPath := path } := by
  obtain ⟨classFilters, threadFilters, hclass, hthread, hcapture⟩ := h.capture hkit
  obtain ⟨_, hreadClass, hclassText⟩ := hrecord.classFilters
  obtain ⟨_, hreadThread, hthreadText⟩ := hrecord.threadFilters
  rw [hclass, Except.ok.injEq] at hreadClass
  rw [hthread, Except.ok.injEq] at hreadThread
  subst hreadClass hreadThread
  rw [hcapture, hclassText, hthreadText]

theorem Makes.madeBy (h : record.Makes kit id group settings bp) : bp.MadeBy kit := by
  obtain ⟨_, _, made, -, -, hmake, hbp⟩ := h
  exact ⟨_, _, _, _, made, hmake, configure_renewed hbp⟩

theorem Makes.spec_eq (h : record.Makes kit id group settings bp) (hkit : kit.Plain) :
    bp.spec = record.spec := by
  obtain ⟨_, _, made, -, -, hmake, hbp⟩ := h
  exact (configure_renewed hbp).1.trans (Kit.bare_of_make hkit hmake).spec_eq

/-- The kit makes again what a record describes. -/
theorem Restorable.exists_makes (hrecord : record.Restorable kit) (hkit : kit.Equipped)
    (id group : Nat) (settings : Settings) : ∃ bp, record.Makes kit id group settings bp := by
  obtain ⟨conditions, hconditions⟩ := hkit.makeConditions record.conditions
  obtain ⟨monitors, hmonitors⟩ := hkit.makeMonitors record.monitors
  obtain ⟨classFilters, hclass, -⟩ := hrecord.classFilters
  obtain ⟨threadFilters, hthread, -⟩ := hrecord.threadFilters
  obtain ⟨made, hmake⟩ := Kit.exists_make hrecord.registered id group settings
  exact ⟨_, conditions, monitors, made, hconditions, hmonitors, hmake,
    configure_eq_ok_iff.mpr ⟨classFilters, threadFilters, hclass, hthread, rfl⟩⟩

end Record

namespace Registry

variable {τ : Type} {m m' : Registry τ}

section Records

/-- What is written down about a breakpoint. -/
def recordOf (m : Registry τ) (bp : Breakpoint) : Record :=
  .capture bp ((m.groups.path bp.group).getD "")

def recordOf? (m : Registry τ) (id : Nat) : Option Record :=
  (m.find? id).map m.recordOf

theorem records_eq (hm : m.Orderly) : m.records = (m.breakpoints.map m.recordOf).values := by
  have hall : m.breakpoints.values.filter (!·.destroyed) = m.breakpoints.values := by
    rw [List.filter_eq_self]
    intro bp hbp
    obtain ⟨id, hfind⟩ := Table.mem_values_iff.mp hbp
    simp [(hm id bp hfind).2.2]
  rw [records, hall, Table.values_map]
  rfl

theorem mem_records_iff (hm : m.Orderly) {record : Record} :
    record ∈ m.records ↔ ∃ id, m.recordOf? id = some record := by
  simp only [records_eq hm, Table.mem_values_iff, Table.find?_map]
  rfl

/-- The records are those of the single breakpoints. -/
theorem records_congr (hm : m.Orderly) (hm' : m'.Orderly)
    (h : ∀ id, m'.recordOf? id = m.recordOf? id) : m'.records = m.records := by
  rw [records_eq hm, records_eq hm']
  congr 1
  apply Table.ext_find?
  intro id
  rw [Table.find?_map, Table.find?_map]
  exact h id

/-- The record of a new breakpoint comes last. -/
theorem records_of_new (hm : m.Orderly) (hm' : m'.Orderly) {record : Record}
    (h : ∀ id, m'.recordOf? id = if id = m.nextId then some record else m.recordOf? id) :
    m'.records = m.records ++ [record] := by
  have htable : m'.breakpoints.map m'.recordOf =
      (m.breakpoints.map m.recordOf).insert m.nextId record := by
    apply Table.ext_find?
    intro id
    rw [Table.find?_insert, Table.find?_map, Table.find?_map]
    exact h id
  rw [records_eq hm, records_eq hm', htable]
  apply Table.values_insert_of_above
  intro id hid
  obtain ⟨found, hfound⟩ := Table.contains_eq_true_iff.mp hid
  rw [Table.find?_map] at hfound
  obtain ⟨bp, hfind, -⟩ := Option.map_eq_some_iff.mp hfound
  exact Nat.compare_eq_gt.mpr (hm id bp hfind).2.1

/-- A record stays when its breakpoint does and groups only come. -/
theorem recordOf?_of_grows (hm : m.Sound) (hgrows : GroupTree.Grows m.groups m'.groups) {id : Nat}
    (hfind : m'.find? id = m.find? id) : m'.recordOf? id = m.recordOf? id := by
  rw [recordOf?, recordOf?, hfind]
  cases hbp : m.find? id with
  | none => rfl
  | some bp =>
      rw [Option.map_some, Option.map_some, recordOf, recordOf,
        hgrows.path hm.shaped (hm.housed hbp)]

variable [Target τ]

theorem recordOf?_destroy (hm : m.Sound) (id j : Nat) :
    (m.destroy id).2.recordOf? j = if j = id then none else m.recordOf? j := by
  by_cases hj : j = id
  · rw [if_pos hj, recordOf?, find?_destroy, if_pos hj, Option.map_none]
  · rw [if_neg hj]
    apply recordOf?_of_grows hm (.of_sameShape (destroy_sameShape m id))
    rw [find?_destroy, if_neg hj]

/-- A binding is not written down. -/
theorem recordOf?_resolve (m : Registry τ) (id j : Nat) :
    (m.resolve id).2.recordOf? j = m.recordOf? j := by
  rw [resolve]
  split
  · rfl
  next bp hfind =>
    split
    · rfl
    split
    · rfl
    split
    · rfl
    · rfl
    split
    · rfl
    next anchor _ _ request target _ =>
      rw [recordOf?, find?_of_insert rfl]
      split
      next hj =>
        rw [hj, recordOf?, hfind]
        rfl
      next => rfl

end Records

section Restore

/-- The registry is in order, and its kit can make again whatever is saved. -/
structure Ready (m : Registry τ) : Prop where
  sound : m.Sound
  faithful : m.kit.Faithful
  plain : m.kit.Plain
  equipped : m.kit.Equipped

variable {record : Record}

theorem Ready.create (target : τ) {kit : Kit} (hkit : kit.Faithful) (hplain : kit.Plain)
    (hequipped : kit.Equipped) (settings : Settings) : (create target kit settings).Ready :=
  ⟨.create target kit settings, hkit, hplain, hequipped⟩

/-- The records of the live breakpoints can be restored. -/
theorem Ready.restorable (hm : m.Ready) : ∀ record ∈ m.records, record.Restorable m.kit := by
  intro record hrecord
  obtain ⟨id, hid⟩ := (mem_records_iff hm.sound.orderly).mp hrecord
  obtain ⟨bp, hfind, rfl⟩ := Option.map_eq_some_iff.mp hid
  exact (hm.sound.savable id bp hfind).restorable _

/-- A record stays as it is when it is followed, unless a name in its path is empty. -/
theorem Ready.followed_eq (hm : m.Ready) (hrecord : record ∈ m.records)
    (hplain : GroupTree.PlainPath record.groupPath) : record.followed = record := by
  obtain ⟨id, hid⟩ := (mem_records_iff hm.sound.orderly).mp hrecord
  obtain ⟨bp, hfind, rfl⟩ := Option.map_eq_some_iff.mp hid
  have hgroup := hm.sound.housed hfind
  obtain ⟨path, hpath⟩ : ∃ path, m.groups.path bp.group = some path :=
    ⟨_, GroupTree.path_eq hgroup⟩
  have hsame : m.recordOf bp = .capture bp path := by rw [recordOf, hpath, Option.getD_some]
  rw [hsame] at hplain ⊢
  exact congrArg (Record.capture bp)
    (GroupTree.followedPath_path hm.sound.shaped hgroup hpath hplain)

variable [Target τ]

theorem Ready.leads {scope : Scope τ} (hm : m.Ready) (hleads : Leads scope m m') : m'.Ready where
  sound := hm.sound.leads hm.plain hleads
  faithful := hleads.kit_eq ▸ hm.faithful
  plain := hleads.kit_eq ▸ hm.plain
  equipped := hleads.kit_eq ▸ hm.equipped

/-- Restoring makes the breakpoint that the record describes, and then binds it as if it was new. -/
theorem restore_eq (hm : m.Ready) (hrecord : record.Restorable m.kit) :
    ∃ (made : Registry τ) (bp : Breakpoint), m.restore record = made.resolveNew m.nextId ∧
      made.Sound ∧ made.settings = m.settings ∧ made.target = m.target ∧
      made.find? m.nextId = some bp ∧ bp.Fresh m.nextId bp.group ∧ bp.spec = record.spec ∧
      ∀ j, made.recordOf? j =
        if j = m.nextId then some record.followed else m.recordOf? j := by
  obtain ⟨group, grown, hpath, hshaped, hgrows, hgroup, hfollowed⟩ :=
    GroupTree.ensurePath_eq_ok hm.sound.shaped record.groupPath
  obtain ⟨bp, hmakes⟩ := hrecord.exists_makes hm.equipped m.nextId group m.settings
  have hfresh := hmakes.fresh hm.faithful
  have hcapture := hmakes.capture_of_restorable hm.plain hrecord
  obtain ⟨groups, hgroups⟩ : ∃ groups, grown.moveMember m.nextId none group = .ok groups := by
    rw [GroupTree.moveMember, if_pos hgroup]
    exact ⟨_, rfl⟩
  have hshape : GroupTree.SameShape grown groups := .moveMember hgroups
  -- first the groups come, then the breakpoint; both are changes that keep the registry in order
  let waiting : Registry τ := { m with groups := grown }
  let after : Registry τ := { waiting.store bp m.nextId with nextId := m.nextId + 1, groups }
  have hleads : Leads (.drifting fun _ => True) m after := by
    have hwaiting : Leads (.drifting fun _ => True) m waiting :=
      regroup_leads (GroupTree.ensurePath_reshaped hpath)
    exact hwaiting.tail (.insert hfresh hgroups hmakes.madeBy)
  have hfind : after.find? m.nextId = some bp := Table.find?_insert_self _ _ _
  refine ⟨after, bp, ?_, hm.sound.leads hm.plain hleads, rfl, rfl, hfind,
    hfresh.group_eq ▸ hfresh, hmakes.spec_eq hm.plain, fun j => ?_⟩
  · obtain ⟨conditions, monitors, made, hconditions, hmonitors, hmake, hbp⟩ := hmakes
    simp only [restore, hconditions, hmonitors, hpath, insert, hmake, hbp, hgroups]
    rfl
  · split
    next hj =>
      have hend : groups.path bp.group = some (GroupTree.followedPath record.groupPath) := by
        rw [hfresh.group_eq, (GroupTree.Grows.of_sameShape hshape).path hshaped hgroup, hfollowed]
      rw [hj, recordOf?, hfind, Option.map_some, recordOf, hend, Option.getD_some, hcapture]
      rfl
    next hj =>
      apply recordOf?_of_grows hm.sound (hgrows.trans (.of_sameShape hshape))
      exact (find?_of_insert rfl j).trans (if_neg hj)

/-- A record is restored, unless its method is ambiguous in the target and is to be bound at once.
What was restored comes last among the records, as it was followed. -/
theorem restore_records (hm : m.Ready) (hrecord : record.Restorable m.kit) :
    (m.restore record).1 =
        (if m.settings.resolveOnCreate then (record.spec.resolve m.target).map fun _ => m.nextId
        else .ok m.nextId) ∧
      (m.restore record).2.records =
        m.records ++ match (m.restore record).1 with
          | .ok _ => [record.followed]
          | .error _ => [] := by
  obtain ⟨made, bp, hrestore, hsound, hsettings, htarget, hfind, hfresh, hspec, hrecords⟩ :=
    restore_eq hm hrecord
  have hmade : made.records = m.records ++ [record.followed] :=
    records_of_new hm.sound.orderly hsound.orderly hrecords
  rw [hrestore]
  by_cases hbinds : m.settings.resolveOnCreate = true
  · have hnew := resolveNew_eq (hsettings ▸ hbinds) hfind hfresh.destroyed_eq hfresh.binding_eq
    rw [hspec, htarget] at hnew
    rw [hnew, if_pos hbinds]
    cases record.spec.resolve m.target with
    | error e =>
        -- the breakpoint is taken back, and the groups that came with it touch no other record
        refine ⟨rfl, ?_⟩
        rw [List.append_nil]
        apply records_congr hm.sound.orderly (hsound.orderly.destroy m.nextId)
        intro j
        rw [recordOf?_destroy hsound, hrecords]
        split
        next hj => rw [hj, recordOf?, hm.sound.orderly.find?_nextId, Option.map_none]
        next => rfl
    | ok found =>
        refine ⟨rfl, ?_⟩
        rw [← hmade]
        have hresolved : Leads (.drifting fun _ => True) made (made.resolve m.nextId).2 :=
          resolve_leads made m.nextId
        exact records_congr hsound.orderly (hresolved.orderly hsound.orderly)
          (recordOf?_resolve made m.nextId)
  · rw [resolveNew, hsettings, if_neg hbinds, if_neg hbinds]
    exact ⟨rfl, hmade⟩

/-- Restores records one after another; a failure with one does not keep the others from it.  The
first part lists the records that were restored. -/
def restoreEach (m : Registry τ) : List Record → List Record × Registry τ
  | [] => ([], m)
  | record :: records =>
    match m.restore record with
    | (.ok _, m) =>
      let (restored, m) := restoreEach m records
      (record :: restored, m)
    | (.error _, m) => restoreEach m records

theorem restoreEach_leads {scope : Scope τ} (hkit : m.kit.Faithful) (records : List Record) :
    Leads scope m (m.restoreEach records).2 := by
  induction records generalizing m with
  | nil => exact .refl
  | cons record records ih =>
      have hfirst : Leads scope m (m.restore record).2 := restore_leads hkit record
      have hrest := ih (hfirst.kit_eq ▸ hkit)
      rw [restoreEach]
      split
      next heq =>
        rw [heq] at hfirst hrest
        exact hfirst.trans hrest
      next heq =>
        rw [heq] at hfirst hrest
        exact hfirst.trans hrest

/-- What a record is answered when others were restored before it, whatever they were answered. -/
theorem restore_after (hm : m.Ready) (hrecord : record.Restorable m.kit) (before : List Record) :
    let now := (m.restoreEach before).2
    (now.restore record).1 =
      if m.settings.resolveOnCreate then (record.spec.resolve now.target).map fun _ => now.nextId
      else .ok now.nextId := by
  intro now
  have hleads : Leads (.drifting fun _ => True) m now := restoreEach_leads hm.faithful before
  have hnow : record.Restorable now.kit := hleads.kit_eq ▸ hrecord
  have hrestored := (restore_records (hm.leads hleads) hnow).1
  rwa [hleads.settings_eq] at hrestored

/-- What was restored comes behind what was there. -/
theorem restoreEach_records (hm : m.Ready) {records : List Record}
    (hrecords : ∀ record ∈ records, record.Restorable m.kit) :
    (m.restoreEach records).2.records =
      m.records ++ (m.restoreEach records).1.map Record.followed := by
  induction records generalizing m with
  | nil => exact (List.append_nil m.records).symm
  | cons record records ih =>
      rw [List.forall_mem_cons] at hrecords
      have hfirst := (restore_records hm hrecords.1).2
      have hleads : Leads (.drifting fun _ => True) m (m.restore record).2 :=
        restore_leads hm.faithful record
      have hrest := ih (hm.leads hleads) (hleads.kit_eq ▸ hrecords.2)
      rw [restoreEach]
      split
      next heq =>
        rw [heq] at hfirst hrest
        rw [hrest, hfirst, List.append_assoc]
        rfl
      next heq =>
        rw [heq] at hfirst hrest
        rw [hrest, hfirst, List.append_nil]

/-- Where each record can be restored when its turn comes, all are. -/
theorem restoreEach_all {records : List Record}
    (h : ∀ before record after, records = before ++ record :: after →
      ∃ id, ((m.restoreEach before).2.restore record).1 = .ok id) :
    (m.restoreEach records).1 = records := by
  induction records generalizing m with
  | nil => rfl
  | cons record records ih =>
      obtain ⟨id, hid⟩ := h [] record records rfl
      cases hrestore : m.restore record with
      | mk result next =>
          have hresult : result = .ok id := (congrArg Prod.fst hrestore).symm.trans hid
          subst hresult
          have hrest : (next.restoreEach records).1 = records := by
            apply ih
            intro before later after hsplit
            obtain ⟨id', hid'⟩ := h (record :: before) later after (by rw [hsplit]; rfl)
            simp only [restoreEach, hrestore] at hid'
            exact ⟨id', hid'⟩
          simp only [restoreEach, hrestore, hrest]

/-- The breakpoints of any registry may be saved and restored one after another in a new registry
with the same kit and settings on the same target, as long as the constructors keep to the id, the
group and the specification that they are given.  A record is restored unless its method is
ambiguous by then and is to be bound at once.  What was restored is saved again as it was, except
that the empty names are left out of the paths of the groups.  So nothing is lost where no method is
ambiguous and no name in a path is empty. -/
theorem run_restores (target : τ) {kit : Kit} (hkit : kit.Faithful) (hplain : kit.Plain)
    (hequipped : kit.Equipped) (settings : Settings) (moves : List (Move τ)) :
    let m := (create target kit settings).run moves
    let f := create m.target kit settings
    (∀ before record after, m.records = before ++ record :: after →
      let now := (f.restoreEach before).2
      (now.restore record).1 =
        if settings.resolveOnCreate then (record.spec.resolve now.target).map fun _ => now.nextId
        else .ok now.nextId) ∧
    (f.restoreEach m.records).2.records = (f.restoreEach m.records).1.map Record.followed ∧
    ((settings.resolveOnCreate = true → ∀ before record after,
        m.records = before ++ record :: after →
        ∃ found, record.spec.resolve (f.restoreEach before).2.target = .ok found) →
      (∀ record ∈ m.records, GroupTree.PlainPath record.groupPath) →
      (f.restoreEach m.records).1 = m.records ∧
        (f.restoreEach m.records).2.records = m.records) := by
  intro m f
  have hf : f.Ready := .create m.target hkit hplain hequipped settings
  have hrun : Leads (.drifting fun _ => True) (create target kit settings) m :=
    run_leads hkit (create_orderly target kit settings) fun move _ =>
      Move.within_drifting fun _ _ => trivial
  have hm : m.Ready := (Ready.create target hkit hplain hequipped settings).leads hrun
  have hrecords : ∀ record ∈ m.records, record.Restorable kit := by
    have hall := hm.restorable
    rwa [show m.kit = kit from hrun.kit_eq] at hall
  have hstep : ∀ before record after, m.records = before ++ record :: after →
      let now := (f.restoreEach before).2
      (now.restore record).1 =
        if settings.resolveOnCreate then (record.spec.resolve now.target).map fun _ => now.nextId
        else .ok now.nextId := by
    intro before record after hsplit
    exact restore_after hf (hrecords record (by simp [hsplit])) before
  have hbehind : (f.restoreEach m.records).2.records =
      (f.restoreEach m.records).1.map Record.followed :=
    restoreEach_records hf hrecords
  refine ⟨hstep, hbehind, fun hclear hpaths => ?_⟩
  have hall : (f.restoreEach m.records).1 = m.records := by
    apply restoreEach_all
    intro before record after hsplit
    rw [hstep before record after hsplit]
    split
    next hbinds =>
      obtain ⟨found, hfound⟩ := hclear hbinds before record after hsplit
      exact ⟨_, by rw [hfound]; rfl⟩
    next => exact ⟨_, rfl⟩
  refine ⟨hall, ?_⟩
  rw [hbehind, hall]
  calc m.records.map Record.followed
      = m.records.map id := List.map_congr_left fun record hrecord =>
          hm.followed_eq hrecord (hpaths record hrecord)
    _ = m.records := List.map_id _

/-- A breakpoint in a group of its own is restored there. -/
theorem run_restores_grouped :
    let kit := Kit.standard.equip (fun _ _ => .ok true) fun _ _ => .ok ()
    let m := (create ScriptedTarget.initial kit .standard).run
      [.createGroup "io" GroupTree.root, .createSpec .uncaughtException 1]
    m.records.map (·.groupPath) = ["Default/io"] ∧
      ((create m.target kit .standard).restoreEach m.records).2.records = m.records := by
  intro kit m
  have hfaithful : kit.Faithful := Kit.standard_faithful
  have hplain : kit.Plain := Kit.standard_plain
  obtain ⟨-, -, hall⟩ := run_restores ScriptedTarget.initial hfaithful hplain ⟨rfl, rfl⟩ .standard
    [.createGroup "io" GroupTree.root, .createSpec .uncaughtException 1]
  have hspecs : m.records.map (·.spec) = [.uncaughtException] := by rfl
  have hpaths : m.records.map (·.groupPath) = ["Default/io"] := by rfl
  refine ⟨hpaths, (hall ?_ ?_).2⟩
  · intro _ before record after hsplit
    have hrecord : record ∈ m.records := hsplit ▸ List.mem_append_right before List.mem_cons_self
    have hlisted : record.spec ∈ m.records.map (·.spec) := List.mem_map_of_mem hrecord
    rw [hspecs, List.mem_singleton] at hlisted
    exact ⟨some (.exception none), by rw [hlisted]; rfl⟩
  · intro record hrecord
    have hlisted : record.groupPath ∈ m.records.map (·.groupPath) := List.mem_map_of_mem hrecord
    rw [hpaths, List.mem_singleton] at hlisted
    rw [hlisted]
    unfold GroupTree.PlainPath
    decide

/-- Not everything can be restored: a group without a name is not found again; a method that has
become ambiguous is refused; and a constructor may set a property that had been removed, or put the
breakpoint in another group than it is asked for. -/
theorem restoreEach_loses :
    let kit := Kit.standard.equip (fun _ _ => .ok true) fun _ _ => .ok ()
    let marked : Constructor := fun id spec group settings =>
      (Kit.construct id spec group settings).setProperty "mark" .null
    let unnamed := (create ScriptedTarget.initial kit .standard).run
      [.createGroup "" GroupTree.root, .createSpec .uncaughtException 1]
    let ambiguous := (create ScriptedTarget.initial kit .standard).run
      [.createSpec (.method ⟨"A", "f", .any⟩) GroupTree.root,
        .outside fun t => (t.define ⟨"A", "A.java", [.method "f" [], .method "f" ["int"]]⟩).2]
    let marking := kit.register .uncaughtException marked
    let unmarked := (create ScriptedTarget.initial marking .standard).run
      [.createSpec .uncaughtException GroupTree.root, .removeProperty 1 "mark"]
    let astray : Constructor := fun id spec group settings =>
      Kit.construct id spec (group + 1) settings
    let misplacing := kit.register .uncaughtException astray
    let misplaced := (create ScriptedTarget.initial misplacing .standard).run
      [.createGroup "b" GroupTree.root, .createSpec .uncaughtException GroupTree.root]
    ((create unnamed.target kit .standard).restoreEach unnamed.records).2.records ≠
      unnamed.records ∧
    ((create ambiguous.target kit .standard).restoreEach ambiguous.records).1 ≠ ambiguous.records ∧
    ((create unmarked.target marking .standard).restoreEach unmarked.records).2.records ≠
      unmarked.records ∧
    ((create misplaced.target misplacing .standard).restoreEach misplaced.records).2.records ≠
      misplaced.records := by
  intro kit marked unnamed ambiguous marking unmarked astray misplacing misplaced
  refine ⟨fun h => ?_, fun h => ?_, fun h => ?_, fun h => ?_⟩
  · have hpaths := congrArg (List.map (·.groupPath)) h
    revert hpaths
    decide +kernel
  · have hcount := congrArg List.length h
    revert hcount
    decide +kernel
  · have hkeys := congrArg (List.map (·.properties.keys)) h
    revert hkeys
    decide +kernel
  · have hpaths := congrArg (List.map (·.groupPath)) h
    revert hpaths
    decide +kernel

end Restore

end Registry

end Breakpoints
