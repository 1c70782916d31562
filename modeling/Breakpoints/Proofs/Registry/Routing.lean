import Breakpoints.Proofs.Registry.Steps
import Breakpoints.Proofs.Target.Scripted

/-!
Which hit goes to which breakpoint.  The table of requests and the bindings of the breakpoints are
kept apart; that they agree is the invariant of this file.
-/

namespace Breakpoints.Registry

variable {τ : Type} {m m' : Registry τ}

/-- The request that a breakpoint is bound to. -/
def requestOf? (m : Registry τ) (id : Nat) : Option Int :=
  (m.find? id).bind fun bp => bp.binding.map (·.request)

theorem requestOf?_eq_some_iff {id : Nat} {request : Int} :
    m.requestOf? id = some request ↔
      ∃ bp binding, m.find? id = some bp ∧ bp.binding = some binding ∧
        binding.request = request := by
  simp only [requestOf?, Option.bind_eq_some_iff, Option.map_eq_some_iff]
  constructor
  · rintro ⟨bp, hfind, binding, hbound, hrequest⟩
    exact ⟨bp, binding, hfind, hbound, hrequest⟩
  · rintro ⟨bp, binding, hfind, hbound, hrequest⟩
    exact ⟨bp, hfind, binding, hbound, hrequest⟩

theorem requestOf?_of_bound {id : Nat} {bp : Breakpoint} {binding : Binding}
    (hfind : m.find? id = some bp) (hbinding : bp.binding = some binding) :
    m.requestOf? id = some binding.request :=
  requestOf?_eq_some_iff.mpr ⟨bp, binding, hfind, hbinding, rfl⟩

theorem requestOf?_of_unbound {id : Nat} {bp : Breakpoint} (hfind : m.find? id = some bp)
    (hbinding : bp.binding = none) : m.requestOf? id = none := by
  rw [requestOf?, hfind, Option.bind_some, hbinding, Option.map_none]

theorem requestOf?_of_insert {id : Nat} {bp : Breakpoint} {request : Option Int}
    (h : m'.breakpoints = m.breakpoints.insert id bp)
    (hbinding : bp.binding.map (·.request) = request) (j : Nat) :
    m'.requestOf? j = if j = id then request else m.requestOf? j := by
  rw [requestOf?, find?_of_insert h]
  split
  · exact hbinding
  · rfl

/-- A breakpoint that changes keeps its request if its binding does. -/
theorem requestOf?_of_update {id : Nat} {bp bp' : Breakpoint} (hfind : m.find? id = some bp)
    (hinsert : m'.breakpoints = m.breakpoints.insert id bp')
    (hbinding : bp'.binding.map (·.request) = bp.binding.map (·.request)) (j : Nat) :
    m'.requestOf? j = m.requestOf? j := by
  rw [requestOf?_of_insert hinsert hbinding]
  split
  next heq => rw [heq, requestOf?, hfind, Option.bind_some]
  next => rfl

/-- A new breakpoint has no request yet, and its id had none before. -/
theorem requestOf?_of_new (hm : m.Orderly) {bp : Breakpoint}
    (hinsert : m'.breakpoints = m.breakpoints.insert m.nextId bp) (hbinding : bp.binding = none)
    (j : Nat) : m'.requestOf? j = m.requestOf? j := by
  rw [requestOf?_of_insert hinsert (congrArg _ hbinding)]
  split
  next heq => rw [heq, requestOf?, hm.find?_nextId]; rfl
  next => rfl

theorem requestOf?_of_eq (h : m'.breakpoints = m.breakpoints) (j : Nat) :
    m'.requestOf? j = m.requestOf? j := by
  rw [requestOf?, find?, h]
  rfl

variable [Target τ] {drifts : (τ → τ) → Prop} {start : τ}

theorem requestOf?_destroy (m : Registry τ) (id j : Nat) :
    (m.destroy id).2.requestOf? j = if j = id then none else m.requestOf? j := by
  rw [requestOf?, find?_destroy]
  split
  · rfl
  · rfl

theorem requestOf?_destroy_of_unbound {id : Nat} (hunbound : m.requestOf? id = none) (j : Nat) :
    (m.destroy id).2.requestOf? j = m.requestOf? j := by
  rw [requestOf?_destroy]
  split
  next heq => rw [heq, hunbound]
  next => rfl

/-- The table of requests says what the bindings say, and every id in it was given out by the
target. -/
structure Routing (drifts : (τ → τ) → Prop) (start : τ) (m : Registry τ) : Prop where
  exact : ∀ request id, m.requests.find? request = some id ↔ m.requestOf? id = some request
  issued : ∃ given, Target.History drifts start given m.target ∧
    ∀ request id, m.requests.find? request = some id → request ∈ given

namespace Routing

theorem create (start : τ) (kit : Kit) (settings : Settings) :
    Routing drifts start (create start kit settings) where
  exact request id := by simp [Registry.create, requestOf?, find?]
  issued := ⟨[], .start, by simp [Registry.create]⟩

/-- Nothing is lost when neither the table nor the bindings change. -/
theorem keep (h : Routing drifts start m) (hrequests : m'.requests = m.requests)
    (hbindings : ∀ id, m'.requestOf? id = m.requestOf? id)
    (htarget : ∀ given, Target.History drifts start given m.target →
      Target.History drifts start given m'.target) : Routing drifts start m' where
  exact request id := by rw [hrequests, hbindings, h.exact]
  issued := by
    obtain ⟨given, hist, hgiven⟩ := h.issued
    refine ⟨given, htarget given hist, ?_⟩
    rw [hrequests]
    exact hgiven

/-- The id of a new request is not in the table yet, so nobody else is bound to it. -/
theorem bind (h : Routing drifts start m) (hfresh : Target.NeverReissues drifts start) {id : Nat}
    {spec : RequestSpec} {request : Int} (hunbound : m.requestOf? id = none)
    (harm : Target.arm m.target spec = (.ok request, m'.target))
    (hrequests : m'.requests = m.requests.insert request id)
    (hbindings : ∀ j, m'.requestOf? j = if j = id then some request else m.requestOf? j) :
    Routing drifts start m' := by
  obtain ⟨given, hist, hgiven⟩ := h.issued
  have hnew : request ∉ given := hfresh.not_mem hist harm
  refine ⟨fun r j => ?_, request :: given, hist.armed harm, fun r j hfound => ?_⟩
  · rw [hrequests, hbindings, Table.find?_insert]
    by_cases hr : r = request
    · subst hr
      by_cases hj : j = id
      · simp [hj]
      · have hother : m.requestOf? j ≠ some r := by
          rw [Ne, ← h.exact]
          exact fun hfound => hnew (hgiven r j hfound)
        simp [hj, hother, Ne.symm hj]
    · rw [if_neg hr, h.exact]
      by_cases hj : j = id
      · simp [hj, hunbound, Ne.symm hr]
      · rw [if_neg hj]
  · rw [hrequests, Table.find?_insert] at hfound
    split at hfound
    next heq => exact heq ▸ List.mem_cons_self
    next => exact List.mem_cons_of_mem request (hgiven r j hfound)

/-- A breakpoint loses its binding, and its request goes from the table. -/
theorem drop (h : Routing drifts start m) {id : Nat} {request : Int}
    (hbound : m.requestOf? id = some request)
    (hrequests : m'.requests = m.requests.erase request)
    (hbindings : ∀ j, m'.requestOf? j = if j = id then none else m.requestOf? j)
    (htarget : ∀ given, Target.History drifts start given m.target →
      Target.History drifts start given m'.target) : Routing drifts start m' := by
  obtain ⟨given, hist, hgiven⟩ := h.issued
  refine ⟨fun r j => ?_, given, htarget given hist, fun r j hfound => ?_⟩
  · rw [hrequests, hbindings, Table.find?_erase]
    by_cases hj : j = id
    · -- the breakpoint was bound to this request only
      subst hj
      have honly : ∀ r, m.requests.find? r = some j → r = request := by
        intro r hfound
        rw [h.exact, hbound] at hfound
        exact (Option.some.inj hfound).symm
      simpa using fun hr hfound => hr (honly r hfound)
    · by_cases hr : r = request
      · -- the request was bound to this breakpoint only
        subst hr
        have hother : m.requestOf? j ≠ some r := by
          intro hfound
          rw [← h.exact] at hbound hfound
          rw [hbound] at hfound
          exact hj (Option.some.inj hfound).symm
        simp [hj, hother]
      · rw [if_neg hr, if_neg hj, h.exact]
  · rw [hrequests, Table.find?_erase] at hfound
    split at hfound
    · contradiction
    · exact hgiven r j hfound

theorem destroy (h : Routing drifts start m) (id : Nat) :
    Routing drifts start (m.destroy id).2 := by
  cases hfind : m.find? id with
  | none => exact (destroy_of_none hfind).symm ▸ h
  | some bp =>
      cases hbinding : bp.binding with
      | none =>
          have hbindings := requestOf?_destroy_of_unbound (requestOf?_of_unbound hfind hbinding)
          rw [destroy_of_unbound hfind hbinding] at hbindings ⊢
          exact h.keep rfl hbindings fun _ hist => hist
      | some binding =>
          have hbindings := requestOf?_destroy m id
          rw [destroy_of_bound hfind hbinding] at hbindings ⊢
          exact h.drop (requestOf?_of_bound hfind hbinding) rfl hbindings
            fun _ hist => hist.cleared _

/-- Each elementary change keeps the table exact, whatever the target answers. -/
theorem change {scope : Scope τ} (h : Routing scope.drifts start m)
    (hfresh : Target.NeverReissues scope.drifts start) (hm : m.Orderly)
    (hchange : Change scope m m') : Routing scope.drifts start m' := by
  cases hchange with
  | drift hdrift =>
      exact h.keep rfl (requestOf?_of_eq rfl) fun _ hist => hist.drift hdrift
  | refuse harm => exact h.keep rfl (requestOf?_of_eq rfl) fun _ hist => hist.refused harm
  | skipId => exact h.keep rfl (requestOf?_of_eq rfl) fun _ hist => hist
  | insert hnew _ =>
      exact h.keep rfl (requestOf?_of_new hm rfl hnew.binding_eq) fun _ hist => hist
  | edit hfind => exact h.keep rfl (requestOf?_of_update hfind rfl rfl) fun _ hist => hist
  | restyle hfind _ =>
      exact h.keep rfl (requestOf?_of_update hfind rfl (Breakpoint.request_markStale _))
        fun _ hist => hist
  | toggle hfind _ => exact h.keep rfl (requestOf?_of_update hfind rfl rfl) fun _ hist => hist
  | switch hfind _ _ =>
      exact h.keep rfl (requestOf?_of_update hfind rfl rfl) fun _ hist => hist.switched _ _
  | bind hfind hunbound harm =>
      exact h.bind hfresh (requestOf?_of_unbound hfind hunbound) harm rfl
        (requestOf?_of_insert rfl rfl)
  | release hfind hbinding =>
      exact h.drop (requestOf?_of_bound hfind hbinding) rfl (requestOf?_of_insert rfl rfl)
        fun _ hist => hist.cleared _
  | forget _ hfind hbinding =>
      exact h.drop (requestOf?_of_bound hfind hbinding) rfl (requestOf?_of_insert rfl rfl)
        fun _ hist => hist
  | expire hfind _ =>
      exact h.keep rfl (requestOf?_of_update hfind rfl rfl) fun _ hist => hist.switched _ _
  | restart _ hfind _ => exact h.keep rfl (requestOf?_of_update hfind rfl rfl) fun _ hist => hist
  | rearm _ hfind _ _ =>
      exact h.keep rfl (requestOf?_of_update hfind rfl rfl) fun _ hist => hist.switched _ _
  | destroy id => exact h.destroy id
  | regroup _ => exact h.keep rfl (requestOf?_of_eq rfl) fun _ hist => hist
  | transfer hfind _ =>
      exact h.keep rfl (requestOf?_of_update hfind rfl rfl) fun _ hist => hist
  | removeGroup _ =>
      exact foldl_destroy_induction (fun _ id h => h.destroy id) _
        (h.keep rfl (requestOf?_of_eq rfl) fun _ hist => hist)

theorem leads {scope : Scope τ} (h : Routing scope.drifts start m)
    (hfresh : Target.NeverReissues scope.drifts start) (hm : m.Orderly)
    (hleads : Leads scope m m') : Routing scope.drifts start m' := by
  induction hleads with
  | refl => exact h
  | tail hbefore hchange ih => exact ih.change hfresh (Leads.orderly hbefore hm) hchange

/-- Two breakpoints are never bound to one request. -/
theorem requestOf?_inj (h : Routing drifts start m) {i j : Nat} {request : Int}
    (hi : m.requestOf? i = some request) (hj : m.requestOf? j = some request) : i = j := by
  rw [← h.exact] at hi hj
  rw [hi] at hj
  exact Option.some.inj hj

theorem request_ne (h : Routing drifts start m) {i j : Nat} {request other : Int} (hne : i ≠ j)
    (hi : m.requestOf? i = some request) (hj : m.requestOf? j = some other) :
    request ≠ other := by
  rintro rfl
  exact hne (h.requestOf?_inj hi hj)

end Routing

/-- A hit of a request without an entry is nobody's: it passes and changes nothing. -/
theorem onHit_of_find?_eq_none {m : Registry τ} {request : Int}
    (hnone : m.requests.find? request = none) (state : TargetState) :
    let report := (m.onHit request state).1
    report.breakpoint = none ∧ report.request = request ∧ report.decision = .proceed ∧
      report.policy = .nothing ∧ report.stopCount = 0 ∧ report.expired = false ∧
      report.destroyed = false ∧ report.conditionFailures = [] ∧
      report.monitorFailures = [] ∧ (m.onHit request state).2 = ([], m) := by
  have hhit : m.onHit request state = (.unrouted request, [], m) := by
    rw [onHit, hnone]
  obtain ⟨hbreakpoint, hrequest, hdecision, hpolicy, hcount, hexpired, hdestroyed, hconditions,
    hmonitors⟩ := HitReport.eq_unrouted_iff.mp (congrArg (·.1) hhit)
  exact ⟨hbreakpoint, hrequest, hdecision, hpolicy, hcount, hexpired, hdestroyed, hconditions,
    hmonitors, congrArg (·.2) hhit⟩

theorem onHit_breakpoint_eq_some_iff (m : Registry τ) (request : Int) (state : TargetState)
    (id : Nat) :
    (m.onHit request state).1.breakpoint = some id ↔
      m.requests.find? request = some id ∧ ∃ bp, m.find? id = some bp := by
  rw [onHit]
  split
  next hnone => simp [HitReport.unrouted, hnone]
  next found hrouted =>
    split
    next hnone =>
      simp only [HitReport.unrouted, hrouted, Option.some.injEq, reduceCtorEq, false_iff]
      rintro ⟨rfl, bp, hfind⟩
      rw [hnone] at hfind
      contradiction
    next bp hfind =>
      simp only [hrouted, Option.some.injEq]
      constructor
      · rintro rfl
        exact ⟨rfl, bp, hfind⟩
      · exact fun h => h.1

/-- Whatever happens and whatever the target answers, as long as it gives no request id twice: the
table of requests lists exactly the bindings of the live breakpoints, no two of these share a
request, none of them is marked as destroyed, and a hit goes to the one that is bound to its
request. -/
theorem run_routes (hfresh : Target.NeverReissues drifts start) {kit : Kit}
    (hkit : kit.Faithful) (settings : Settings) {moves : List (Move τ)}
    (hmoves : ∀ change, .outside change ∈ moves → drifts change) :
    let m := (create start kit settings).run moves
    (∀ request id, m.requests.find? request = some id ↔
      ∃ bp binding, m.find? id = some bp ∧ bp.binding = some binding ∧
        binding.request = request) ∧
    (∀ i j request, m.requestOf? i = some request → m.requestOf? j = some request → i = j) ∧
    (∀ id bp, m.find? id = some bp → bp.destroyed = false) ∧
    (∀ request state id, (m.onHit request state).1.breakpoint = some id ↔
      m.requestOf? id = some request) := by
  intro m
  have hleads : Leads (.drifting drifts) (create start kit settings) m :=
    run_leads hkit (create_orderly start kit settings) fun move hmove =>
      Move.within_drifting fun change heq => hmoves change (heq ▸ hmove)
  have hm : m.Orderly := hleads.orderly (create_orderly start kit settings)
  have hrouting : Routing drifts start m :=
    (Routing.create start kit settings).leads hfresh (create_orderly start kit settings) hleads
  refine ⟨fun request id => ?_, fun i j request => hrouting.requestOf?_inj,
    fun id bp hfind => (hm id bp hfind).2.2, fun request state id => ?_⟩
  · rw [hrouting.exact, requestOf?_eq_some_iff]
  · rw [onHit_breakpoint_eq_some_iff, hrouting.exact, and_iff_left_iff_imp]
    intro hbound
    obtain ⟨bp, -, hfind, -⟩ := requestOf?_eq_some_iff.mp hbound
    exact ⟨bp, hfind⟩

/-- A breakpoint whose policy was changed has a new request: hits of this one come to it, and those
of the old one to nobody. -/
theorem run_routes_restyled :
    let m := (create ScriptedTarget.initial .standard .standard).run
      [.createSpec .uncaughtException GroupTree.root, .setEnabled 1 false, .setPolicy 1 .nothing,
        .setEnabled 1 true]
    (m.onHit 2 .unknown).1.breakpoint = some 1 ∧
      ∀ id, (m.onHit 1 .unknown).1.breakpoint ≠ some id := by
  intro m
  have h := run_routes (ScriptedTarget.neverReissues .initial) Kit.standard_faithful .standard
    (show ∀ change, Move.outside change ∈ [.createSpec .uncaughtException GroupTree.root,
        .setEnabled 1 false, .setPolicy 1 .nothing, .setEnabled 1 true] →
      ScriptedTarget.KeepsRequests change by simp)
  constructor
  · exact (h.2.2.2 2 .unknown 1).mpr (by decide)
  · intro id hhit
    have hbound : m.requestOf? id = some 1 := (h.2.2.2 1 .unknown id).mp hhit
    have hrouted : m.requests.find? 1 = some id :=
      (h.1 1 id).mpr (requestOf?_eq_some_iff.mp hbound)
    have hnone : m.requests.find? 1 = none := by decide
    rw [hnone] at hrouted
    contradiction

end Breakpoints.Registry
