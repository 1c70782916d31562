import Breakpoints.Proofs.Registry.Expiry
import Breakpoints.Proofs.Registry.Membership

/-!
Breakpoints that are gone.  Whatever took a breakpoint away, and whatever happens then, nothing can
be done with its id, and the requests that it was ever bound to lead nowhere.
-/

namespace Breakpoints

/-- The breakpoint that a move changes, if it fails where there is none. -/
def Move.subject? {τ : Type} : Move τ → Option Nat
  | .resolve id | .setEnabled id _ | .setSkipCount id _ | .setExpireCount id _
  | .setDeleteOnExpire id _ | .setPolicy id _ | .setClassFilters id _ | .setThreadFilters id _
  | .attachCondition id _ | .addCondition id _ | .removeCondition id _ | .attachMonitor id _
  | .addMonitor id _ | .removeMonitor id _ | .setProperty id _ _ | .removeProperty id _ | .reset id
  | .moveBreakpoint id _ => some id
  | _ => none

namespace Registry

variable {τ : Type} {m m' : Registry τ}

section Rejected

def failureOf? {α : Type} : Except Failure α → Option Failure
  | .error e => some e
  | .ok _ => none

theorem failed_of_eq {α : Type} {answer : Except Failure α × Registry τ} {e : Failure}
    (h : answer = (.error e, m)) : (∃ e, failureOf? answer.1 = some e) ∧ answer.2 = m := by
  subst h
  exact ⟨⟨e, rfl⟩, rfl⟩

variable [Target τ]

/-- The failure that a move on one breakpoint answers with. -/
def failure? (m : Registry τ) : Move τ → Option Failure
  | .resolve id => failureOf? (m.resolve id).1
  | .setEnabled id enabled => failureOf? (m.setEnabled id enabled).1
  | .setSkipCount id skipCount => failureOf? (m.setSkipCount id skipCount).1
  | .setExpireCount id expireCount => failureOf? (m.setExpireCount id expireCount).1
  | .setDeleteOnExpire id deleteOnExpire => failureOf? (m.setDeleteOnExpire id deleteOnExpire).1
  | .setPolicy id policy => failureOf? (m.setPolicy id policy).1
  | .setClassFilters id text => failureOf? (m.setClassFilters id text).1
  | .setThreadFilters id text => failureOf? (m.setThreadFilters id text).1
  | .attachCondition id condition => failureOf? (m.attachCondition id condition).1
  | .addCondition id expression => failureOf? (m.addCondition id expression).1
  | .removeCondition id index => failureOf? (m.removeCondition id index).1
  | .attachMonitor id monitor => failureOf? (m.attachMonitor id monitor).1
  | .addMonitor id command => failureOf? (m.addMonitor id command).1
  | .removeMonitor id text => failureOf? (m.removeMonitor id text).1
  | .setProperty id key value => failureOf? (m.setProperty id key value).1
  | .removeProperty id key => failureOf? (m.removeProperty id key).1
  | .reset id => failureOf? (m.reset id).1
  | .moveBreakpoint id group => failureOf? (m.moveBreakpoint id group).1
  | _ => none

/-- Without a breakpoint there is nothing to change. -/
theorem rejects_of_none {id : Nat} (hnone : m.find? id = none) {move : Move τ}
    (hsubject : move.subject? = some id) :
    (∃ e, m.failure? move = some e) ∧ m.step move = m := by
  have hupdate : ∀ f, m.update id f = (.error (.unknownBreakpoint id), m) := by
    intro f
    rw [update, hnone]
  have hextract : ∀ {α : Type} (f : Breakpoint → α × Breakpoint),
      m.extract id f = (.error (.unknownBreakpoint id), m) := by
    intro α f
    rw [extract, hnone]
  cases move <;> cases hsubject
  case resolve.refl => exact failed_of_eq (by rw [resolve, hnone])
  case setEnabled.refl => exact failed_of_eq (by rw [setEnabled, hnone])
  case reset.refl => exact failed_of_eq (by rw [reset, hnone])
  case moveBreakpoint.refl => exact failed_of_eq (by rw [moveBreakpoint, hnone])
  case removeCondition.refl | removeMonitor.refl | removeProperty.refl =>
    exact failed_of_eq (hextract _)
  case addCondition.refl expression =>
    -- an expression that nothing evaluates is refused first
    cases hmake : m.kit.makeCondition expression with
    | error e => exact failed_of_eq (by rw [addCondition, hmake])
    | ok condition => exact failed_of_eq (by rw [addCondition, hmake]; exact hupdate _)
  case addMonitor.refl command =>
    cases hmake : m.kit.makeMonitor command with
    | error e => exact failed_of_eq (by rw [addMonitor, hmake])
    | ok monitor => exact failed_of_eq (by rw [addMonitor, hmake]; exact hupdate _)
  all_goals exact failed_of_eq (hupdate _)

end Rejected

variable [Target τ]

/-- No request changes hands: one that was given out before leads to the breakpoint that it led to,
or nowhere. -/
def Loyal (drifts : (τ → τ) → Prop) (start : τ) (m m' : Registry τ) : Prop :=
  ∀ given, Target.History drifts start given m.target →
    ∃ given', Target.History drifts start given' m'.target ∧ ∀ request ∈ given,
      request ∈ given' ∧
        ∀ id, m'.requests.find? request = some id → m.requests.find? request = some id

namespace Loyal

variable {drifts : (τ → τ) → Prop} {start : τ}

theorem refl (m : Registry τ) : Loyal drifts start m m :=
  fun given hist => ⟨given, hist, fun _ hgiven => ⟨hgiven, fun _ hfound => hfound⟩⟩

theorem trans {m'' : Registry τ} (h : Loyal drifts start m m') (h' : Loyal drifts start m' m'') :
    Loyal drifts start m m'' := by
  intro given hist
  obtain ⟨given', hist', hfirst⟩ := h given hist
  obtain ⟨given'', hist'', hsecond⟩ := h' given' hist'
  refine ⟨given'', hist'', fun request hgiven => ?_⟩
  obtain ⟨hgiven', hback⟩ := hfirst request hgiven
  obtain ⟨hgiven'', hback'⟩ := hsecond request hgiven'
  exact ⟨hgiven'', fun id hfound => hback id (hback' id hfound)⟩

/-- No request is armed, and entries can only go from the table. -/
theorem keep (hrequests : ∀ request id, m'.requests.find? request = some id →
      m.requests.find? request = some id)
    (htarget : ∀ given, Target.History drifts start given m.target →
      Target.History drifts start given m'.target) : Loyal drifts start m m' :=
  fun given hist => ⟨given, htarget given hist, fun request hgiven => ⟨hgiven, hrequests request⟩⟩

theorem erase {request : Int} (hrequests : m'.requests = m.requests.erase request)
    (htarget : ∀ given, Target.History drifts start given m.target →
      Target.History drifts start given m'.target) : Loyal drifts start m m' := by
  refine keep (fun r id hfound => ?_) htarget
  rw [hrequests, Table.find?_erase] at hfound
  split at hfound
  · contradiction
  · exact hfound

/-- A request that is armed has a new id. -/
theorem bind (hfresh : Target.NeverReissues drifts start) {spec : RequestSpec} {request : Int}
    {id : Nat} (harm : Target.arm m.target spec = (.ok request, m'.target))
    (hrequests : m'.requests = m.requests.insert request id) : Loyal drifts start m m' := by
  intro given hist
  refine ⟨request :: given, hist.armed harm, fun r hgiven => ?_⟩
  have hne : r ≠ request := by
    rintro rfl
    exact hfresh.not_mem hist harm hgiven
  refine ⟨List.mem_cons_of_mem request hgiven, fun j hfound => ?_⟩
  rwa [hrequests, Table.find?_insert_of_ne _ _ hne] at hfound

theorem destroy (m : Registry τ) (id : Nat) : Loyal drifts start m (m.destroy id).2 := by
  cases hfind : m.find? id with
  | none =>
      rw [destroy_of_none hfind]
      exact refl m
  | some bp =>
      cases hbinding : bp.binding with
      | none =>
          rw [destroy_of_unbound hfind hbinding]
          exact keep (fun _ _ hfound => hfound) fun _ hist => hist
      | some binding =>
          rw [destroy_of_bound hfind hbinding]
          exact erase rfl fun _ hist => hist.cleared _

theorem change {scope : Scope τ} (hfresh : Target.NeverReissues scope.drifts start)
    (hchange : Change scope m m') : Loyal scope.drifts start m m' := by
  cases hchange with
  | drift hdrift => exact keep (fun _ _ hfound => hfound) fun _ hist => hist.drift hdrift
  | refuse harm => exact keep (fun _ _ hfound => hfound) fun _ hist => hist.refused harm
  | switch _ _ _ => exact keep (fun _ _ hfound => hfound) fun _ hist => hist.switched _ _
  | expire _ _ => exact keep (fun _ _ hfound => hfound) fun _ hist => hist.switched _ _
  | rearm _ _ _ _ => exact keep (fun _ _ hfound => hfound) fun _ hist => hist.switched _ _
  | bind _ _ harm => exact bind hfresh harm rfl
  | release _ _ => exact erase rfl fun _ hist => hist.cleared _
  | forget _ _ _ => exact erase rfl fun _ hist => hist
  | destroy id => exact destroy m id
  | removeGroup _ =>
      exact foldl_destroy_induction (fun found id h => h.trans (destroy found id)) _
        (keep (fun _ _ hfound => hfound) fun _ hist => hist)
  | _ => exact keep (fun _ _ hfound => hfound) fun _ hist => hist

theorem leads {scope : Scope τ} (hfresh : Target.NeverReissues scope.drifts start)
    (hleads : Leads scope m m') : Loyal scope.drifts start m m' := by
  induction hleads with
  | refl => exact refl m
  | tail _ hchange ih => exact ih.trans (change hfresh hchange)

end Loyal

section Run

variable {drifts : (τ → τ) → Prop} {start : τ}

/-- A request of a breakpoint that is gone leads nowhere. -/
theorem Routing.find?_eq_none_of_gone (h : Routing drifts start m) (h' : Routing drifts start m')
    (hloyal : Loyal drifts start m m') {id : Nat} {request : Int}
    (hbound : m.requestOf? id = some request) (hgone : m'.find? id = none) :
    m'.requests.find? request = none := by
  by_contra hsome
  obtain ⟨j, hj⟩ := Option.ne_none_iff_exists'.mp hsome
  have hentry : m.requests.find? request = some id := (h.exact request id).mpr hbound
  obtain ⟨given, hist, hgiven⟩ := h.issued
  obtain ⟨given', -, hkept⟩ := hloyal given hist
  have hback : m.requests.find? request = some j :=
    (hkept request (hgiven request id hentry)).2 j hj
  rw [hentry] at hback
  cases hback
  obtain ⟨bp, -, hfind, -⟩ := requestOf?_eq_some_iff.mp ((h'.exact request id).mp hj)
  rw [hgone] at hfind
  contradiction

/-- Once an id has been given out and has no breakpoint, be it that the breakpoint was destroyed,
went with its group or with its last hit, or was taken back when it was made, this is so whatever
happens.  The id is in no group and in no entry of the table of requests; every operation on it
fails and changes nothing, and destroying it once more does nothing.  Hits of all requests that it
was ever bound to go to nobody, pass, and change nothing. -/
theorem run_gone (hfresh : Target.NeverReissues drifts start) {kit : Kit} (hkit : kit.Faithful)
    (settings : Settings) {before after : List (Move τ)}
    (hmoves : ∀ change, .outside change ∈ before ++ after → drifts change) {id : Nat} :
    let m := (create start kit settings).run before
    let now := m.run after
    id < m.nextId → m.find? id = none →
      now.find? id = none ∧
      (∀ group, now.groups.isMember group id = false) ∧
      (∀ request, now.requests.find? request ≠ some id) ∧
      (∀ move, move.subject? = some id → (∃ e, now.failure? move = some e) ∧ now.step move = now) ∧
      now.destroy id = (false, now) ∧
      now.effectivelyEnabled id = .error (.unknownBreakpoint id) ∧
      (∀ early late request state, before = early ++ late →
        ((create start kit settings).run early).requestOf? id = some request →
          let report := (now.onHit request state).1
          report.breakpoint = none ∧ report.request = request ∧ report.decision = .proceed ∧
            report.policy = .nothing ∧ report.stopCount = 0 ∧ report.expired = false ∧
            report.destroyed = false ∧ report.conditionFailures = [] ∧
            report.monitorFailures = [] ∧ (now.onHit request state).2 = ([], now)) := by
  intro m now hgiven hnone
  have hempty : (create start kit settings).Orderly := create_orderly start kit settings
  have hbefore : ∀ change, .outside change ∈ before → drifts change :=
    fun change hchange => hmoves change (List.mem_append_left after hchange)
  have hafter : ∀ change, .outside change ∈ after → drifts change :=
    fun change hchange => hmoves change (List.mem_append_right before hchange)
  have hm : Leads (.drifting drifts) (create start kit settings) m :=
    create_leads start hkit settings hbefore
  have hnow : Leads (.drifting drifts) m now := hm.onward hkit hempty hafter
  have hgone : now.find? id = none := hnow.find?_eq_none hgiven hnone
  have hrouting : Routing drifts start now :=
    (Routing.create start kit settings).leads hfresh hempty (hm.trans hnow)
  have hgrouped : Grouped (fun _ => False) now :=
    (Grouped.create start kit settings).leads hempty (hm.trans hnow)
  refine ⟨hgone, hgrouped.not_isMember hgone, fun request hentry => ?_,
    fun move => rejects_of_none hgone, destroy_of_none hgone,
    by rw [effectivelyEnabled, hgone], ?_⟩
  · obtain ⟨bp, -, hfind, -⟩ :=
      requestOf?_eq_some_iff.mp ((hrouting.exact request id).mp hentry)
    rw [hgone] at hfind
    contradiction
  · rintro early late request state rfl hbound
    have hearly : Leads (.drifting drifts) (create start kit settings)
        ((create start kit settings).run early) :=
      create_leads start hkit settings fun change hchange =>
        hbefore change (List.mem_append_left late hchange)
    have hlate : Leads (.drifting drifts) ((create start kit settings).run early) m := by
      change Leads (.drifting drifts) _ ((create start kit settings).run (early ++ late))
      rw [run_append]
      exact hearly.onward hkit hempty fun change hchange =>
        hbefore change (List.mem_append_right early hchange)
    have hfirst : Routing drifts start ((create start kit settings).run early) :=
      (Routing.create start kit settings).leads hfresh hempty hearly
    have hunrouted : now.requests.find? request = none :=
      hfirst.find?_eq_none_of_gone hrouting (Loyal.leads hfresh (hlate.trans hnow)) hbound hgone
    exact onHit_of_find?_eq_none hunrouted state

/-- A breakpoint whose request was replaced goes with its last hit.  Hits of both requests go to
nobody then, also when the next breakpoint has been bound, and it cannot be reset. -/
theorem run_gone_expired :
    let before : List (Move ScriptedTarget) :=
      [.createSpec .uncaughtException GroupTree.root, .setEnabled 1 false, .setPolicy 1 .nothing,
        .setEnabled 1 true, .setExpireCount 1 1, .setDeleteOnExpire 1 true, .hit 2 .unknown]
    let now := ((create ScriptedTarget.initial .standard .standard).run before).run
      [.createSpec .uncaughtException GroupTree.root, .resolveAll]
    (∀ request state, request = 1 ∨ request = 2 →
      (now.onHit request state).1.breakpoint = none ∧
        (now.onHit request state).1.decision = .proceed ∧
        (now.onHit request state).2 = ([], now)) ∧
      now.step (.reset 1) = now := by
  intro before now
  have h := run_gone (ScriptedTarget.neverReissues .initial) Kit.standard_faithful .standard
    (show ∀ change, Move.outside change ∈ before ++
        [.createSpec .uncaughtException GroupTree.root, .resolveAll] →
      ScriptedTarget.KeepsRequests change by simp [before])
    (show 1 < _ by decide) (by decide)
  obtain ⟨-, -, -, hrejects, -, -, hhits⟩ := h
  refine ⟨fun request state hrequest => ?_, (hrejects (.reset 1) rfl).2⟩
  rcases hrequest with rfl | rfl
  · obtain ⟨hnobody, -, hpasses, -, -, -, -, -, -, hsame⟩ :=
      hhits [.createSpec .uncaughtException GroupTree.root] _ 1 state rfl (by decide)
    exact ⟨hnobody, hpasses, hsame⟩
  · obtain ⟨hnobody, -, hpasses, -, -, -, -, -, -, hsame⟩ :=
      hhits [.createSpec .uncaughtException GroupTree.root, .setEnabled 1 false,
        .setPolicy 1 .nothing, .setEnabled 1 true] _ 2 state rfl (by decide)
    exact ⟨hnobody, hpasses, hsame⟩

end Run

end Registry

end Breakpoints
