import Breakpoints.Proofs.Breakpoint.Configuration
import Breakpoints.Proofs.Registry.Change

/-!
Every move is a row of elementary changes.
-/

namespace Breakpoints.Registry

variable {τ : Type} {m m' : Registry τ}

/-- The breakpoints are filed under their own ids, the ids have been given out, and none is marked
as destroyed. -/
def Orderly (m : Registry τ) : Prop :=
  ∀ id bp, m.find? id = some bp → bp.id = id ∧ id < m.nextId ∧ bp.destroyed = false

theorem find?_of_insert {id : Nat} {bp : Breakpoint}
    (h : m'.breakpoints = m.breakpoints.insert id bp) (j : Nat) :
    m'.find? j = if j = id then some bp else m.find? j := by
  rw [find?, h]
  exact Table.find?_insert m.breakpoints id bp j

@[simp] theorem store_target (m : Registry τ) (bp : Breakpoint) (id : Nat) :
    (m.store bp id).target = m.target := rfl

theorem create_orderly (target : τ) (kit : Kit) (settings : Settings) :
    (create target kit settings).Orderly := by
  intro id bp hfind
  simp [create, find?] at hfind

theorem Orderly.find?_nextId (hm : m.Orderly) : m.find? m.nextId = none := by
  by_contra hsome
  obtain ⟨bp, hfind⟩ := Option.ne_none_iff_exists'.mp hsome
  exact Nat.lt_irrefl _ (hm m.nextId bp hfind).2.1

/-- A breakpoint may change in everything but its id and its mark. -/
theorem Orderly.of_insert {id : Nat} {bp bp' : Breakpoint} (hm : m.Orderly)
    (hfind : m.find? id = some bp) (hinsert : m'.breakpoints = m.breakpoints.insert id bp')
    (hid : bp'.id = bp.id) (hdestroyed : bp'.destroyed = bp.destroyed)
    (hnext : m'.nextId = m.nextId) : m'.Orderly := by
  intro j found hfound
  rw [find?_of_insert hinsert] at hfound
  rw [hnext]
  split at hfound
  next heq =>
    cases hfound
    rw [hid, hdestroyed, heq]
    exact hm id bp hfind
  next => exact hm j found hfound

theorem Orderly.of_eq (hm : m.Orderly) (hbreakpoints : m'.breakpoints = m.breakpoints)
    (hnext : m.nextId ≤ m'.nextId) : m'.Orderly := by
  intro id bp hfind
  rw [find?, hbreakpoints] at hfind
  obtain ⟨hid, hlt, hdestroyed⟩ := hm id bp hfind
  exact ⟨hid, Nat.lt_of_lt_of_le hlt hnext, hdestroyed⟩

variable [Target τ] {scope : Scope τ}

theorem Orderly.destroy (hm : m.Orderly) (id : Nat) : (m.destroy id).2.Orderly := by
  intro j bp hfind
  rw [find?_destroy] at hfind
  rw [(destroy_fields m id).2.2]
  split at hfind
  · contradiction
  · exact hm j bp hfind

/-- What every destruction keeps, a row of destructions keeps. -/
theorem foldl_destroy_induction {P : Registry τ → Prop}
    (h : ∀ m id, P m → P (m.destroy id).2) (ids : List Nat) (hm : P m) :
    P (ids.foldl (fun m id => (m.destroy id).2) m) := by
  induction ids generalizing m with
  | nil => exact hm
  | cons id ids ih => exact ih (h m id hm)

theorem foldl_destroy_fields (m : Registry τ) (ids : List Nat) :
    let m' := ids.foldl (fun m id => (m.destroy id).2) m
    m'.kit = m.kit ∧ m'.settings = m.settings ∧ m'.nextId = m.nextId := by
  refine foldl_destroy_induction
    (P := fun found => found.kit = m.kit ∧ found.settings = m.settings ∧ found.nextId = m.nextId)
    (fun found id hfound => ?_) ids ⟨rfl, rfl, rfl⟩
  obtain ⟨hkit, hsettings, hnext⟩ := destroy_fields found id
  exact ⟨hkit.trans hfound.1, hsettings.trans hfound.2.1, hnext.trans hfound.2.2⟩

theorem Change.orderly (h : Change scope m m') (hm : m.Orderly) : m'.Orderly := by
  cases h with
  | drift _ => exact hm.of_eq rfl (Nat.le_refl _)
  | refuse _ => exact hm.of_eq rfl (Nat.le_refl _)
  | skipId => exact hm.of_eq rfl (Nat.le_succ _)
  | insert hfresh _ =>
      intro j found hfound
      rw [find?_of_insert (m := m) rfl] at hfound
      split at hfound
      next heq =>
        cases hfound
        rw [heq]
        exact ⟨hfresh.id_eq, Nat.lt_succ_self _, hfresh.destroyed_eq⟩
      next =>
        obtain ⟨hid, hlt, hdestroyed⟩ := hm j found hfound
        exact ⟨hid, Nat.lt_succ_of_lt hlt, hdestroyed⟩
  | edit hfind => exact hm.of_insert hfind rfl rfl rfl rfl
  | restyle hfind _ => exact hm.of_insert hfind rfl rfl rfl rfl
  | toggle hfind _ => exact hm.of_insert hfind rfl rfl rfl rfl
  | switch hfind _ _ => exact hm.of_insert hfind rfl rfl rfl rfl
  | bind hfind _ _ => exact hm.of_insert hfind rfl rfl rfl rfl
  | release hfind _ => exact hm.of_insert hfind rfl rfl rfl rfl
  | forget _ hfind _ => exact hm.of_insert hfind rfl rfl rfl rfl
  | expire hfind _ => exact hm.of_insert hfind rfl rfl rfl rfl
  | restart _ hfind _ => exact hm.of_insert hfind rfl rfl rfl rfl
  | rearm _ hfind _ _ => exact hm.of_insert hfind rfl rfl rfl rfl
  | destroy id => exact hm.destroy id
  | regroup _ => exact hm.of_eq rfl (Nat.le_refl _)
  | transfer hfind _ => exact hm.of_insert hfind rfl rfl rfl rfl
  | removeGroup _ =>
      exact foldl_destroy_induction (fun m id hm => hm.destroy id) _
        (hm.of_eq rfl (Nat.le_refl _))

theorem Change.kit_eq (h : Change scope m m') : m'.kit = m.kit := by
  cases h
  case destroy id => exact (destroy_fields m id).1
  case removeGroup groups _ => exact (foldl_destroy_fields { m with groups } _).1
  all_goals rfl

theorem Change.settings_eq (h : Change scope m m') : m'.settings = m.settings := by
  cases h
  case destroy id => exact (destroy_fields m id).2.1
  case removeGroup groups _ => exact (foldl_destroy_fields { m with groups } _).2.1
  all_goals rfl

theorem Leads.orderly (h : Leads scope m m') (hm : m.Orderly) : m'.Orderly := by
  induction h with
  | refl => exact hm
  | tail _ hchange ih => exact hchange.orderly ih

theorem Leads.kit_eq (h : Leads scope m m') : m'.kit = m.kit := by
  induction h with
  | refl => rfl
  | tail _ hchange ih => exact hchange.kit_eq.trans ih

theorem Leads.settings_eq (h : Leads scope m m') : m'.settings = m.settings := by
  induction h with
  | refl => rfl
  | tail _ hchange ih => exact hchange.settings_eq.trans ih

section Editing

theorem update_leads {id : Nat} {f : Breakpoint → Except Failure Breakpoint}
    (h : ∀ bp bp', m.find? id = some bp → f bp = .ok bp' → Change scope m (m.store bp' id)) :
    Leads scope m (m.update id f).2 := by
  rw [update]
  split
  · exact .refl
  next bp hfind =>
    split
    · exact .refl
    split
    · exact .refl
    next bp' hok => exact (h bp bp' hfind hok).leads

theorem extract_leads {α : Type} {id : Nat} {f : Breakpoint → α × Breakpoint}
    (h : ∀ bp, m.find? id = some bp → Change scope m (m.store (f bp).2 id)) :
    Leads scope m (m.extract id f).2 := by
  rw [extract]
  split
  · exact .refl
  next bp hfind =>
    split
    · exact .refl
    · exact (h bp hfind).leads

theorem setPolicy_leads (m : Registry τ) (id : Nat) (policy : SuspendPolicy) :
    Leads scope m (m.setPolicy id policy).2 := by
  apply update_leads
  intro bp bp' hfind hok
  obtain ⟨hdisabled, rfl⟩ := Breakpoint.setPolicy_eq_ok hok
  exact .restyle hfind hdisabled (.refl _) (.refl _)

theorem setClassFilters_leads (m : Registry τ) (id : Nat) (text : Option String) :
    Leads scope m (m.setClassFilters id text).2 := by
  apply update_leads
  intro bp bp' hfind hok
  obtain ⟨hdisabled, classFilters, hread, rfl⟩ := Breakpoint.setClassFilters_eq_ok hok
  exact .restyle hfind hdisabled (.inr ⟨text, hread⟩) (.refl _)

theorem setThreadFilters_leads (m : Registry τ) (id : Nat) (text : Option String) :
    Leads scope m (m.setThreadFilters id text).2 := by
  apply update_leads
  intro bp bp' hfind hok
  obtain ⟨hdisabled, threadFilters, hread, rfl⟩ := Breakpoint.setThreadFilters_eq_ok hok
  exact .restyle hfind hdisabled (.refl _) (.inr ⟨text, hread⟩)

/-- The settings that concern hits and records are edited freely. -/
theorem edit_leads {id : Nat} {f : Breakpoint → Breakpoint}
    (h : ∀ bp, m.find? id = some bp → Change scope m (m.store (f bp) id)) :
    Leads scope m (m.update id fun bp => .ok (f bp)).2 := by
  apply update_leads
  intro bp bp' hfind hok
  cases hok
  exact h bp hfind

theorem addCondition_leads (m : Registry τ) (id : Nat) (expression : String) :
    Leads scope m (m.addCondition id expression).2 := by
  rw [addCondition]
  split
  · exact .refl
  · exact edit_leads fun bp hfind => .edit hfind

theorem addMonitor_leads (m : Registry τ) (id : Nat) (command : String) :
    Leads scope m (m.addMonitor id command).2 := by
  rw [addMonitor]
  split
  · exact .refl
  · exact edit_leads fun bp hfind => .edit hfind

end Editing

section Binding

theorem resolve_leads (m : Registry τ) (id : Nat) : Leads scope m (m.resolve id).2 := by
  rw [resolve]
  split
  · exact .refl
  next bp hfind =>
    split
    · exact .refl
    split
    · exact .refl
    next hresolved =>
      have hunbound : bp.binding = none := by simpa [Breakpoint.resolved] using hresolved
      split
      · exact .refl
      · exact .refl
      next anchor _ =>
        split
        next e target harm => exact (Change.refuse harm).leads
        next request target harm => exact (Change.bind hfind hunbound harm).leads

theorem resolveEach_leads (m : Registry τ) (ids : List Nat) :
    Leads scope m (m.resolveEach ids).2 := by
  induction ids generalizing m with
  | nil => exact .refl
  | cons id ids ih =>
      rw [resolveEach]
      have hfirst : Leads scope m (m.resolve id).2 := resolve_leads m id
      split
      · split
        next heq =>
          rw [heq] at hfirst
          exact hfirst.trans (ih _)
        next heq =>
          rw [heq] at hfirst
          exact hfirst.trans (ih _)
      · exact ih m

/-- Releasing a binding clears its request, unless the target is dead. -/
theorem unbind_leads (m : Registry τ) (released : Anchor → Bool) {clearing : Bool}
    (hdeath : clearing = false → scope.deaths) (id : Nat) :
    Leads scope m (m.unbind released clearing id) := by
  rw [unbind]
  split
  · exact .refl
  next bp hfind =>
    split
    · exact .refl
    next binding hbinding =>
      split
      · cases clearing with
        | false => exact (Change.forget (hdeath rfl) hfind hbinding).leads
        | true => exact (Change.release hfind hbinding).leads
      · exact .refl

theorem unbindAll_leads (m : Registry τ) (released : Anchor → Bool) {clearing : Bool}
    (hdeath : clearing = false → scope.deaths) :
    Leads scope m (m.unbindAll released clearing) := by
  rw [unbindAll]
  generalize m.ids = ids
  induction ids generalizing m with
  | nil => exact .refl
  | cons id ids ih => exact (unbind_leads m released hdeath id).trans (ih _)

theorem onStructuralChange_leads (m : Registry τ) {event : TargetEvent}
    (hevent : (Move.event event : Move τ).Within scope) :
    Leads scope m (m.onStructuralChange event).2 := by
  cases event with
  | vmStart => exact resolveEach_leads m m.ids
  | vmDeath => exact unbindAll_leads m _ fun _ => hevent
  | threadStart thread name => exact resolveEach_leads m m.ids
  | threadDeath thread name => exact resolveEach_leads m m.ids
  | classPrepare loaded => exact resolveEach_leads m m.ids
  | classUnload className => exact unbindAll_leads m _ fun h => by contradiction
  | hit request state => exact .refl

theorem resolveNew_leads (m : Registry τ) (id : Nat) : Leads scope m (m.resolveNew id).2 := by
  rw [resolveNew]
  have hresolve : Leads scope m (m.resolve id).2 := resolve_leads m id
  split
  · split
    next heq =>
      rw [heq] at hresolve
      exact hresolve.tail (.destroy id)
    next heq =>
      rw [heq] at hresolve
      exact hresolve
  · exact .refl

theorem insert_leads (hkit : m.kit.Faithful) {spec : Spec} {group : Nat}
    {configure : Breakpoint → Except Failure Breakpoint}
    (hconfigure : ∀ made bp, made.Fresh m.nextId group → configure made = .ok bp →
      bp.Fresh m.nextId group ∧ bp.spec = made.spec ∧
        FilterList.Renewed made.classFilters bp.classFilters ∧
        FilterList.Renewed made.threadFilters bp.threadFilters) :
    Leads scope m (m.insert spec group configure).2 := by
  simp only [insert]
  split
  · exact Change.skipId.leads
  next made hmake =>
    split
    · exact Change.skipId.leads
    next bp hbp =>
      split
      · exact Change.skipId.leads
      next groups hgroups =>
        obtain ⟨hfresh, hspec, hfilters⟩ := hconfigure made bp (Kit.make_fresh hkit hmake) hbp
        have hmade : bp.MadeBy m.kit := ⟨_, _, _, _, made, hmake, hspec, hfilters⟩
        exact (Change.insert hfresh hgroups hmade).leads

theorem createSpec_leads (hkit : m.kit.Faithful) (spec : Spec) (group : Nat) :
    Leads scope m (m.createSpec spec group).2 := by
  have hinsert : Leads scope m (m.insert spec group .ok).2 :=
    insert_leads hkit fun made bp hmade hbp => by
      cases hbp
      exact ⟨hmade, rfl, .refl _, .refl _⟩
  rw [createSpec]
  split
  next heq =>
    rw [heq] at hinsert
    exact hinsert
  next heq =>
    rw [heq] at hinsert
    exact hinsert.trans (resolveNew_leads _ _)

theorem createIn_leads (hkit : m.kit.Faithful) (raw : String) (group : Nat) :
    Leads scope m (m.createIn raw group).2 := by
  rw [createIn]
  split
  · exact .refl
  · exact createSpec_leads hkit _ group

theorem regroup_leads {groups : GroupTree}
    (h : Relation.ReflTransGen GroupTree.Reshaped m.groups groups) :
    Leads scope m { m with groups } := by
  induction h with
  | refl => exact .refl
  | tail _ hreshaped ih => exact ih.tail (.regroup hreshaped)

theorem restore_leads (hkit : m.kit.Faithful) (record : Record) :
    Leads scope m (m.restore record).2 := by
  rw [restore]
  split
  · exact .refl
  split
  · exact .refl
  split
  · exact .refl
  next conditions _ _ monitors _ _ group groups hpath =>
    have hgroups : Leads scope m { m with groups } :=
      regroup_leads (GroupTree.ensurePath_reshaped hpath)
    have hinsert : Leads scope { m with groups }
        ({ m with groups }.insert record.spec group (record.configure conditions monitors)).2 :=
      insert_leads (m := { m with groups }) hkit fun _ _ hmade hbp =>
        ⟨Record.configure_fresh hmade hbp, Record.configure_renewed hbp⟩
    split
    next heq =>
      rw [heq] at hinsert
      exact hgroups.trans hinsert
    next heq =>
      rw [heq] at hinsert
      exact (hgroups.trans hinsert).trans (resolveNew_leads _ _)

/-- What was stored for a breakpoint before its request is replaced does not matter. -/
theorem refresh_store (m : Registry τ) (bp bp' : Breakpoint) (id : Nat) (old : Binding) :
    (m.store bp' id).refresh bp id old = m.refresh bp id old := by
  simp only [refresh, store, Table.insert_insert, clearRequest]

/-- The old request goes, the flag is set, and a new request comes. -/
theorem refresh_leads {id : Nat} (enabled : Bool) {bp : Breakpoint} {binding : Binding}
    (hfind : m.find? id = some bp) (hbound : bp.binding = some binding) (hid : bp.id = id) :
    Leads scope m (m.refresh { bp with enabled } id binding).2 := by
  subst hid
  let unbound : Breakpoint := { bp with binding := none }
  let flagged : Breakpoint := { unbound with enabled }
  let released : Registry τ :=
    { m.store unbound bp.id with
      target := (Target.clear m.target binding.request).2
      requests := m.requests.erase binding.request }
  let toggled : Registry τ :=
    { m.store flagged bp.id with
      target := (Target.clear m.target binding.request).2
      requests := m.requests.erase binding.request }
  have hreleased : Change scope m released := .release hfind hbound
  have htoggled : Change scope released toggled := by
    have hstate : toggled = released.store flagged bp.id := by
      simp only [toggled, released, store, Table.insert_insert]
    have hunbound : released.find? bp.id = some unbound := Table.find?_insert_self _ _ _
    rw [hstate]
    exact .toggle hunbound rfl
  have hfound : toggled.find? bp.id = some flagged := Table.find?_insert_self _ _ _
  refine (hreleased.leads.tail htoggled).trans ?_
  simp only [refresh, clearRequest]
  split
  next e target harm => exact (Change.refuse harm).leads
  next request target harm => exact (Change.bind hfound rfl harm).leads

theorem setEnabled_leads (hm : m.Orderly) (id : Nat) (enabled : Bool) :
    Leads scope m (m.setEnabled id enabled).2 := by
  simp only [setEnabled]
  split
  · exact .refl
  next bp hfind =>
    split
    · exact .refl
    split
    next hunbound => exact (Change.toggle hfind hunbound).leads
    next binding hbound =>
      split
      next =>
        rw [refresh_store]
        exact refresh_leads enabled hfind hbound (hm id bp hfind).1
      next hfresh =>
        rw [Bool.not_eq_true] at hfresh
        have hswitch : Change scope m _ := .switch hfind hbound hfresh
        split
        next heq =>
          rw [store_target] at heq
          rw [heq] at hswitch
          exact hswitch.leads
        next heq =>
          rw [store_target] at heq
          rw [heq] at hswitch
          exact hswitch.leads

theorem reset_leads (m : Registry τ) {id : Nat} (hreset : scope.resets id) :
    Leads scope m (m.reset id).2 := by
  simp only [reset]
  split
  · exact .refl
  next bp hfind =>
    split
    · exact .refl
    split
    next hunbound =>
      have hrestart : Change scope m (m.store bp.reset id) :=
        .restart hreset hfind (.inl hunbound)
      exact hrestart.leads.trans (resolve_leads _ id)
    next binding hbound =>
      split
      next hexpired =>
        have hrearm : Change scope m _ := .rearm hreset hfind hbound hexpired
        split
        next heq =>
          rw [store_target] at heq
          rw [heq] at hrearm
          exact hrearm.leads
        next heq =>
          rw [store_target] at heq
          rw [heq] at hrearm
          exact hrearm.leads
      next hlive =>
        exact (Change.restart hreset hfind (.inr ((Bool.not_eq_true _).mp hlive))).leads

theorem resetAll_leads (m : Registry τ) (hresets : ∀ id, scope.resets id) :
    Leads scope m m.resetAll := by
  rw [resetAll]
  generalize m.ids = ids
  induction ids generalizing m with
  | nil => exact .refl
  | cons id ids ih => exact (reset_leads m (hresets id)).trans (ih _)

end Binding

section Hit

/-- A hit counts; the breakpoint that expires with it goes or has its request disarmed. -/
theorem onHit_leads (m : Registry τ) (request : Int) (state : TargetState) :
    Leads scope m (m.onHit request state).2.2 := by
  rw [onHit]
  split
  · exact .refl
  next id hrouted =>
    split
    · exact .refl
    next bp hfind =>
      obtain ⟨stopCount, hevaluate⟩ := bp.evaluate_snd (m.groups.chainEnabled bp.group) state
      generalize bp.evaluate (m.groups.chainEnabled bp.group) state = result at hevaluate ⊢
      obtain ⟨outcome, after⟩ := result
      simp only at hevaluate ⊢
      cases hexpired : outcome.expiredNow with
      | false =>
          simp only [hexpired, Bool.false_eq_true, ↓reduceIte] at hevaluate
          simp only [Bool.false_and, Bool.false_eq_true, ↓reduceIte]
          rw [hevaluate]
          exact (Change.edit hfind).leads
      | true =>
          simp only [hexpired, ↓reduceIte] at hevaluate
          simp only [Bool.true_and, ↓reduceIte]
          rw [hevaluate]
          split
          next =>
            have hsame : ((m.store { bp with stopCount, expired := true } id).destroy id).2 =
                (m.destroy id).2 := destroy_store hfind rfl rfl
            rw [hsame]
            exact (Change.destroy id).leads
          next => exact (Change.expire hfind hrouted).leads

end Hit

section Grouping

theorem createGroup_leads (m : Registry τ) (name : String) (parent : Nat) :
    Leads scope m (m.createGroup name parent).2 := by
  rw [createGroup]
  split
  · exact .refl
  next hcreate => exact (Change.regroup (.create hcreate)).leads

theorem changeGroups_leads {f : GroupTree → Except Failure GroupTree}
    (h : ∀ groups, f m.groups = .ok groups → m.groups.Reshaped groups) :
    Leads scope m (m.changeGroups f).2 := by
  rw [changeGroups]
  split
  · exact .refl
  next groups hok => exact (Change.regroup (h groups hok)).leads

theorem moveBreakpoint_leads (m : Registry τ) (id group : Nat) :
    Leads scope m (m.moveBreakpoint id group).2 := by
  rw [moveBreakpoint]
  split
  · exact .refl
  next bp hfind =>
    split
    · exact .refl
    split
    · exact .refl
    next groups hmove => exact (Change.transfer hfind hmove).leads

theorem removeGroup_leads (m : Registry τ) (group : Nat) :
    Leads scope m (m.removeGroup group).2 := by
  rw [removeGroup]
  split
  · exact .refl
  next orphans groups hremove => exact (Change.removeGroup hremove).leads

end Grouping

/-- Whether a move relies on constructors, or on the ids that they have given. -/
def reliesOnKit : Move τ → Bool
  | .createIn .. | .createSpec .. | .restore _ | .setEnabled .. => true
  | _ => false

/-- Most moves are rows of elementary changes whatever the constructors make. -/
theorem step_leads_of_not_reliesOnKit {move : Move τ} (hkit : reliesOnKit move = false)
    (hmove : move.Within scope) : Leads scope m (m.step move) := by
  cases move with
  | createIn raw group => contradiction
  | createSpec spec group => contradiction
  | restore record => contradiction
  | resolve id => exact resolve_leads m id
  | resolveAll => exact resolveEach_leads m m.ids
  | event event => exact onStructuralChange_leads m hmove
  | hit request state => exact onHit_leads m request state
  | destroy id => exact (Change.destroy id).leads
  | setEnabled id enabled => contradiction
  | setSkipCount id skipCount => exact edit_leads fun bp hfind => .edit hfind
  | setExpireCount id expireCount => exact edit_leads fun bp hfind => .edit hfind
  | setDeleteOnExpire id deleteOnExpire => exact edit_leads fun bp hfind => .edit hfind
  | setPolicy id policy => exact setPolicy_leads m id policy
  | setClassFilters id text => exact setClassFilters_leads m id text
  | setThreadFilters id text => exact setThreadFilters_leads m id text
  | attachCondition id condition => exact edit_leads fun bp hfind => .edit hfind
  | addCondition id expression => exact addCondition_leads m id expression
  | removeCondition id index => exact extract_leads fun bp hfind => .edit hfind
  | attachMonitor id monitor => exact edit_leads fun bp hfind => .edit hfind
  | addMonitor id command => exact addMonitor_leads m id command
  | removeMonitor id text => exact extract_leads fun bp hfind => .edit hfind
  | setProperty id key value => exact edit_leads fun bp hfind => .edit hfind
  | removeProperty id key => exact extract_leads fun bp hfind => .edit hfind
  | reset id => exact reset_leads m hmove
  | resetAll => exact resetAll_leads m hmove
  | createGroup name parent => exact createGroup_leads m name parent
  | moveGroup group parent => exact changeGroups_leads fun groups hok => .move hok
  | setGroupEnabled group enabled => exact changeGroups_leads fun groups hok => .setEnabled hok
  | moveBreakpoint id group => exact moveBreakpoint_leads m id group
  | removeGroup group => exact removeGroup_leads m group
  | outside change => exact (Change.drift hmove).leads

/-- Every move that the scope allows is a row of elementary changes. -/
theorem step_leads (hkit : m.kit.Faithful) (hm : m.Orderly) {move : Move τ}
    (hmove : move.Within scope) : Leads scope m (m.step move) := by
  cases move with
  | createIn raw group => exact createIn_leads hkit raw group
  | createSpec spec group => exact createSpec_leads hkit spec group
  | restore record => exact restore_leads hkit record
  | setEnabled id enabled => exact setEnabled_leads hm id enabled
  | _ => exact step_leads_of_not_reliesOnKit rfl hmove

/-- Every run is a row of elementary changes. -/
theorem run_leads (hkit : m.kit.Faithful) (hm : m.Orderly) {moves : List (Move τ)}
    (hmoves : ∀ move ∈ moves, move.Within scope) : Leads scope m (m.run moves) := by
  induction moves generalizing m with
  | nil => exact .refl
  | cons move moves ih =>
      rw [List.forall_mem_cons] at hmoves
      rw [run_cons]
      have hstep : Leads scope m (m.step move) := step_leads hkit hm hmoves.1
      exact hstep.trans (ih (hstep.kit_eq ▸ hkit) (hstep.orderly hm) hmoves.2)

/-- From what elementary changes have led to, a run leads on by elementary changes. -/
theorem Leads.onward {drifts : (τ → τ) → Prop} (h : Leads (.drifting drifts) m m')
    (hkit : m.kit.Faithful) (hm : m.Orderly) {moves : List (Move τ)}
    (hmoves : ∀ change, .outside change ∈ moves → drifts change) :
    Leads (.drifting drifts) m' (m'.run moves) :=
  run_leads (h.kit_eq ▸ hkit) (h.orderly hm) fun _ hmove =>
    Move.within_drifting fun change heq => hmoves change (heq ▸ hmove)

theorem create_leads {drifts : (τ → τ) → Prop} (start : τ) {kit : Kit} (hkit : kit.Faithful)
    (settings : Settings) {moves : List (Move τ)}
    (hmoves : ∀ change, .outside change ∈ moves → drifts change) :
    Leads (.drifting drifts) (create start kit settings) ((create start kit settings).run moves) :=
  Leads.onward .refl hkit (create_orderly start kit settings) hmoves

end Breakpoints.Registry
