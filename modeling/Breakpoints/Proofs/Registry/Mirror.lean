import Breakpoints.Proofs.Registry.Routing

/-!
How a scripted target mirrors the breakpoints: each bound breakpoint has its request in the target,
and the request does what the breakpoint asks for.  Unless the target dies, there are no other
requests in it.
-/

namespace Breakpoints

/-- A request does what its breakpoint asks for.  One that was armed with an older policy or older
filters belongs to a disabled breakpoint. -/
structure ArmedRequest.Reflects (armed : ArmedRequest) (bp : Breakpoint) (binding : Binding) :
    Prop where
  kind_eq : armed.spec.kind = bp.kind
  anchor_eq : armed.spec.anchor = binding.anchor
  enabled_eq : armed.enabled = (bp.enabled && !bp.expired)
  policy_eq : binding.stale = false → armed.spec.policy = bp.policy
  classFilters_eq : binding.stale = false → armed.spec.classFilters = bp.classFilters
  threadFilters_eq : binding.stale = false → armed.spec.threadFilters = bp.threadFilters
  disabled_of_stale : binding.stale = true → bp.enabled = false

namespace ArmedRequest.Reflects

variable {armed : ArmedRequest} {bp : Breakpoint} {binding : Binding}

/-- A request that was just armed. -/
theorem of_requestFor (bp : Breakpoint) (anchor : Anchor) (request : Int) :
    ArmedRequest.Reflects ⟨bp.requestFor anchor, (bp.requestFor anchor).enabled⟩
      { bp with binding := some ⟨request, anchor, false⟩ } ⟨request, anchor, false⟩ where
  kind_eq := rfl
  anchor_eq := rfl
  enabled_eq := rfl
  policy_eq _ := rfl
  classFilters_eq _ := rfl
  threadFilters_eq _ := rfl
  disabled_of_stale h := by contradiction

/-- Policy and filters change while the breakpoint is disabled, so the request may lag behind. -/
theorem restyle (h : armed.Reflects bp binding) (hdisabled : bp.enabled = false)
    {policy : SuspendPolicy} {classFilters threadFilters : Option FilterList} :
    armed.Reflects { bp with policy, classFilters, threadFilters }.markStale
      { binding with stale := true } where
  kind_eq := h.kind_eq
  anchor_eq := h.anchor_eq
  enabled_eq := h.enabled_eq
  policy_eq hfresh := by contradiction
  classFilters_eq hfresh := by contradiction
  threadFilters_eq hfresh := by contradiction
  disabled_of_stale _ := hdisabled

/-- A reset needs no switch, unless it brings an expired breakpoint back. -/
theorem reset (h : armed.Reflects bp binding) (hquiet : (bp.expired && bp.enabled) = false) :
    armed.Reflects bp.reset binding :=
  { h with
    enabled_eq := by
      rw [h.enabled_eq]
      cases hexpired : bp.expired with
      | false => rfl
      | true =>
          have hdisabled : bp.enabled = false := by simpa [hexpired] using hquiet
          simp [Breakpoint.reset, hdisabled] }

end ArmedRequest.Reflects

/-- The target changes by itself, but its requests are the registry's. -/
def Scope.scripted (deaths : Prop) : Scope ScriptedTarget :=
  ⟨ScriptedTarget.KeepsRequests, deaths, fun _ => True⟩

namespace Registry

variable {m m' : Registry ScriptedTarget} {deaths : Prop}

/-- The requests of the bound breakpoints are active in the target and do what these ask for. -/
structure Mirror (m : Registry ScriptedTarget) : Prop where
  routing : Routing ScriptedTarget.KeepsRequests .initial m
  connected : m.target.disconnected = false
  reflects : ∀ id bp binding, m.find? id = some bp → bp.binding = some binding →
    ∃ armed, m.target.requests.find? binding.request = some armed ∧ armed.Reflects bp binding

namespace Mirror

theorem create (kit : Kit) (settings : Settings) : Mirror (create .initial kit settings) where
  routing := Routing.create _ kit settings
  connected := rfl
  reflects id bp binding hfind := by simp [Registry.create, find?] at hfind

/-- The ids of bound requests do not exceed the number of requests created. -/
theorem request_le (h : Mirror m) {id : Nat} {request : Int}
    (hbound : m.requestOf? id = some request) : request ≤ m.target.created := by
  obtain ⟨given, hist, hgiven⟩ := h.routing.issued
  exact (ScriptedTarget.history_bounded hist).2 request
    (hgiven request id ((h.routing.exact request id).mpr hbound))

theorem contains_of_bound (h : Mirror m) {id : Nat} {request : Int}
    (hbound : m.requestOf? id = some request) :
    m.target.requests.contains request = true := by
  obtain ⟨bp, binding, hfind, hbinding, rfl⟩ := requestOf?_eq_some_iff.mp hbound
  obtain ⟨armed, harmed, -⟩ := h.reflects id bp binding hfind hbinding
  exact Table.contains_eq_true_iff.mpr ⟨armed, harmed⟩

/-- Clearing the request of one breakpoint leaves those of the others alone. -/
theorem find?_clear (h : Mirror m) {id j : Nat} {request other : Int} (hne : j ≠ id)
    (hother : m.requestOf? j = some other) (hbound : m.requestOf? id = some request) :
    (Target.clear m.target request).2.requests.find? other = m.target.requests.find? other := by
  have hfound := ScriptedTarget.find?_clear h.connected request other
  rw [if_neg (h.routing.request_ne hne hother hbound)] at hfound
  exact hfound

/-- The requests of all breakpoints that stay are as they were. -/
theorem keep (h : Mirror m) (hrouting : Routing ScriptedTarget.KeepsRequests .initial m')
    (hconnected : m'.target.disconnected = m.target.disconnected)
    (hbreakpoints : ∀ id bp, m'.find? id = some bp → m.find? id = some bp ∧
      ∀ request, m.requestOf? id = some request →
        m'.target.requests.find? request = m.target.requests.find? request) : Mirror m' where
  routing := hrouting
  connected := hconnected.trans h.connected
  reflects id bp binding hfind hbinding := by
    obtain ⟨hold, hsame⟩ := hbreakpoints id bp hfind
    rw [hsame binding.request (requestOf?_of_bound hold hbinding)]
    exact h.reflects id bp binding hold hbinding

/-- One breakpoint changes, and only its own request may change with it. -/
theorem of_insert (h : Mirror m) (hrouting : Routing ScriptedTarget.KeepsRequests .initial m')
    {id : Nat} {bp : Breakpoint} (hinsert : m'.breakpoints = m.breakpoints.insert id bp)
    (hconnected : m'.target.disconnected = m.target.disconnected)
    (hothers : ∀ j request, j ≠ id → m.requestOf? j = some request →
      m'.target.requests.find? request = m.target.requests.find? request)
    (hown : ∀ binding, bp.binding = some binding → ∃ armed,
      m'.target.requests.find? binding.request = some armed ∧ armed.Reflects bp binding) :
    Mirror m' where
  routing := hrouting
  connected := hconnected.trans h.connected
  reflects j found binding hfind hbinding := by
    rw [find?_of_insert hinsert] at hfind
    split at hfind
    next =>
      cases hfind
      exact hown binding hbinding
    next hne =>
      rw [hothers j binding.request hne (requestOf?_of_bound hfind hbinding)]
      exact h.reflects j found binding hfind hbinding

/-- One breakpoint changes, and its request reflects it still. -/
theorem update (h : Mirror m) (hrouting : Routing ScriptedTarget.KeepsRequests .initial m')
    {id : Nat} {bp bp' : Breakpoint} (hfind : m.find? id = some bp)
    (hinsert : m'.breakpoints = m.breakpoints.insert id bp') (htarget : m'.target = m.target)
    (hbinding : bp'.binding = bp.binding)
    (hreflects : ∀ (armed : ArmedRequest) (binding : Binding), bp.binding = some binding →
      armed.Reflects bp binding → armed.Reflects bp' binding) : Mirror m' := by
  refine h.of_insert hrouting hinsert (by rw [htarget]) (fun _ _ _ _ => by rw [htarget]) ?_
  intro binding hbound
  rw [hbinding] at hbound
  obtain ⟨armed, harmed, hold⟩ := h.reflects id bp binding hfind hbound
  exact ⟨armed, htarget ▸ harmed, hreflects armed binding hbound hold⟩

/-- One breakpoint changes, and its request is switched to reflect it. -/
theorem switch (h : Mirror m) (hrouting : Routing ScriptedTarget.KeepsRequests .initial m')
    {id : Nat} {bp bp' : Breakpoint} {binding : Binding} {enabled : Bool}
    (hfind : m.find? id = some bp) (hbound : bp.binding = some binding)
    (hinsert : m'.breakpoints = m.breakpoints.insert id bp')
    (htarget : m'.target = (Target.setArmed m.target binding.request enabled).2)
    (hbinding : bp'.binding = bp.binding)
    (hreflects : ∀ armed : ArmedRequest, armed.Reflects bp binding →
      { armed with enabled }.Reflects bp' binding) : Mirror m' := by
  have hfound : ∀ k, m'.target.requests.find? k =
      if k = binding.request then
        (m.target.requests.find? binding.request).map fun armed => { armed with enabled }
      else m.target.requests.find? k := by
    rw [htarget]
    exact ScriptedTarget.find?_setArmed h.connected binding.request enabled
  refine h.of_insert hrouting hinsert ?_ (fun j request hne hother => ?_) fun b hb => ?_
  · rw [htarget]
    exact (ScriptedTarget.setArmed_fields m.target binding.request enabled).1
  · have hdistinct : request ≠ binding.request :=
      h.routing.request_ne hne hother (requestOf?_of_bound hfind hbound)
    rw [hfound, if_neg hdistinct]
  · rw [hbinding, hbound] at hb
    cases hb
    obtain ⟨armed, harmed, hold⟩ := h.reflects id bp binding hfind hbound
    exact ⟨{ armed with enabled }, by rw [hfound, if_pos rfl, harmed, Option.map_some],
      hreflects armed hold⟩

theorem destroy (h : Mirror m) (id : Nat) : Mirror (m.destroy id).2 := by
  have hrouting := h.routing.destroy id
  cases hfind : m.find? id with
  | none => exact (destroy_of_none hfind).symm ▸ h
  | some bp =>
      have hbreakpoints : ∀ j found, (m.destroy id).2.find? j = some found →
          j ≠ id ∧ m.find? j = some found := by
        intro j found hfound
        rw [find?_destroy] at hfound
        split at hfound
        · contradiction
        next hne => exact ⟨hne, hfound⟩
      cases hbinding : bp.binding with
      | none =>
          rw [destroy_of_unbound hfind hbinding] at hrouting hbreakpoints ⊢
          exact h.keep hrouting rfl fun j found hfound =>
            ⟨(hbreakpoints j found hfound).2, fun _ _ => rfl⟩
      | some binding =>
          rw [destroy_of_bound hfind hbinding] at hrouting hbreakpoints ⊢
          refine h.keep hrouting (ScriptedTarget.clear_fields _ _).1 fun j found hfound => ?_
          obtain ⟨hne, hold⟩ := hbreakpoints j found hfound
          exact ⟨hold, fun request hother =>
            h.find?_clear hne hother (requestOf?_of_bound hfind hbinding)⟩

theorem regroup (h : Mirror m) (groups : GroupTree) : Mirror { m with groups } :=
  h.keep (h.routing.keep rfl (requestOf?_of_eq rfl) fun _ hist => hist) rfl
    fun _ _ hfind => ⟨hfind, fun _ _ => rfl⟩

/-- Each elementary change keeps the requests in step with their breakpoints. -/
theorem change (h : Mirror m) (hm : m.Orderly) (hchange : Change (.scripted deaths) m m') :
    Mirror m' := by
  have hbefore : Routing (Scope.scripted deaths).drifts .initial m := h.routing
  have hrouting := hbefore.change (ScriptedTarget.neverReissues _) hm hchange
  cases hchange with
  | drift hdrift =>
      obtain ⟨hrequests, -, -, hconnected⟩ := hdrift m.target
      exact h.keep hrouting hconnected fun _ _ hfind => ⟨hfind, fun _ _ => by rw [hrequests]⟩
  | refuse harm =>
      obtain rfl := ScriptedTarget.arm_eq_error harm
      exact h.keep hrouting rfl fun _ _ hfind => ⟨hfind, fun _ _ => rfl⟩
  | skipId => exact h.keep hrouting rfl fun _ _ hfind => ⟨hfind, fun _ _ => rfl⟩
  | insert hnew _ =>
      refine h.of_insert hrouting rfl rfl (fun _ _ _ _ => rfl) fun binding hbinding => ?_
      rw [hnew.binding_eq] at hbinding
      contradiction
  | edit hfind =>
      refine h.update hrouting hfind rfl rfl rfl fun armed binding _ hold => ?_
      exact { hold with }
  | restyle hfind hdisabled =>
      refine h.of_insert hrouting rfl rfl (fun _ _ _ _ => rfl) fun binding hstale => ?_
      obtain ⟨old, hbound, rfl⟩ := Option.map_eq_some_iff.mp hstale
      obtain ⟨armed, harmed, hold⟩ := h.reflects _ _ old hfind hbound
      exact ⟨armed, harmed, hold.restyle hdisabled⟩
  | toggle hfind hunbound =>
      refine h.update hrouting hfind rfl rfl rfl fun armed binding hbound _ => ?_
      rw [hunbound] at hbound
      contradiction
  | switch hfind hbound hfresh =>
      refine h.switch hrouting hfind hbound rfl rfl rfl fun armed hold => ?_
      refine { hold with enabled_eq := rfl, disabled_of_stale := fun hstale => ?_ }
      simpa [hstale] using hfresh
  | bind hfind hunbound harm =>
      obtain ⟨rfl, rfl⟩ := ScriptedTarget.arm_eq_ok harm
      refine h.of_insert hrouting rfl rfl (fun j request _ hother => ?_) fun binding hbinding => ?_
      · have hne : request ≠ m.target.created + 1 := by
          have hle := h.request_le hother
          omega
        exact Table.find?_insert_of_ne _ _ hne
      · cases hbinding
        exact ⟨_, Table.find?_insert_self _ _ _, .of_requestFor _ _ _⟩
  | release hfind hbound =>
      refine h.of_insert hrouting rfl (ScriptedTarget.clear_fields _ _).1
        (fun j request hne hother => ?_) fun binding hbinding => by contradiction
      exact h.find?_clear hne hother (requestOf?_of_bound hfind hbound)
  | forget _ hfind _ =>
      exact h.of_insert hrouting rfl rfl (fun _ _ _ _ => rfl) fun binding hbinding => by
        contradiction
  | expire hfind hrouted =>
      obtain ⟨found, binding, hfound, hbound, rfl⟩ :=
        requestOf?_eq_some_iff.mp ((h.routing.exact _ _).mp hrouted)
      rw [hfind] at hfound
      cases hfound
      refine h.switch hrouting hfind hbound rfl rfl rfl fun armed hold => ?_
      exact { hold with enabled_eq := by simp }
  | restart _ hfind hquiet =>
      refine h.update hrouting hfind rfl rfl rfl fun armed binding hbound hold => ?_
      rcases hquiet with hunbound | hquiet
      · rw [hunbound] at hbound
        contradiction
      · exact hold.reset hquiet
  | rearm _ hfind hbound hexpired =>
      refine h.switch hrouting hfind hbound rfl rfl rfl fun armed hold => ?_
      rw [Bool.and_eq_true] at hexpired
      exact { hold with enabled_eq := by simp [Breakpoint.reset, hexpired.2] }
  | destroy id => exact h.destroy id
  | regroup _ => exact h.regroup _
  | transfer hfind _ =>
      refine h.update hrouting hfind rfl rfl rfl fun armed binding _ hold => ?_
      exact { hold with }
  | removeGroup _ => exact foldl_destroy_induction (fun _ id h => h.destroy id) _ (h.regroup _)

theorem leads (h : Mirror m) (hm : m.Orderly) (hleads : Leads (.scripted deaths) m m') :
    Mirror m' := by
  induction hleads with
  | refl => exact h
  | tail hbefore hchange ih => exact ih.change (Leads.orderly hbefore hm) hchange

end Mirror

/-- The active requests are those of the bound breakpoints, and all others were cleared. -/
structure Accounted (m : Registry ScriptedTarget) : Prop where
  bound : ∀ request, m.target.requests.contains request = true →
    ∃ id, m.requestOf? id = some request
  total : m.target.created = m.target.requests.size + m.target.cleared.length

namespace Accounted

theorem create (kit : Kit) (settings : Settings) : Accounted (create .initial kit settings) where
  bound request hactive := by contradiction
  total := rfl

/-- Switching requests on and off does not matter. -/
theorem keep (h : Accounted m)
    (hcontains : ∀ request, m'.target.requests.contains request =
      m.target.requests.contains request)
    (hcreated : m'.target.created = m.target.created)
    (hcleared : m'.target.cleared = m.target.cleared)
    (hbindings : ∀ id, m'.requestOf? id = m.requestOf? id) : Accounted m' where
  bound request hactive := by
    rw [hcontains] at hactive
    obtain ⟨id, hbound⟩ := h.bound request hactive
    exact ⟨id, (hbindings id).trans hbound⟩
  total := by rw [hcreated, hcleared, Table.size_congr hcontains, h.total]

theorem switch (h : Accounted m) (hmirror : Mirror m) {request : Int} {enabled : Bool}
    (htarget : m'.target = (Target.setArmed m.target request enabled).2)
    (hbindings : ∀ id, m'.requestOf? id = m.requestOf? id) : Accounted m' := by
  refine h.keep (fun k => ?_) ?_ ?_ hbindings
  · rw [htarget]
    exact ScriptedTarget.contains_setArmed hmirror.connected request enabled k
  · rw [htarget]
    exact (ScriptedTarget.setArmed_fields m.target request enabled).2.1
  · rw [htarget]
    exact (ScriptedTarget.setArmed_fields m.target request enabled).2.2

/-- A new request is active, and its breakpoint is bound to it. -/
theorem bind (h : Accounted m) (hmirror : Mirror m) {id : Nat} {spec : RequestSpec}
    (hunbound : m.requestOf? id = none)
    (htarget : m'.target =
      { m.target with
        created := m.target.created + 1
        requests := m.target.requests.insert (m.target.created + 1) ⟨spec, spec.enabled⟩ })
    (hbindings : ∀ j, m'.requestOf? j =
      if j = id then some (m.target.created + 1 : Int) else m.requestOf? j) :
    Accounted m' where
  bound k hactive := by
    rw [htarget, Table.contains_insert, Bool.or_eq_true, decide_eq_true_iff] at hactive
    rcases hactive with rfl | hactive
    · exact ⟨id, by rw [hbindings, if_pos rfl]⟩
    · obtain ⟨j, hother⟩ := h.bound k hactive
      refine ⟨j, ?_⟩
      rw [hbindings, if_neg, hother]
      rintro rfl
      rw [hunbound] at hother
      contradiction
  total := by
    have hnew : m.target.requests.contains (m.target.created + 1 : Int) = false := by
      by_contra hactive
      rw [Bool.not_eq_false] at hactive
      obtain ⟨j, hother⟩ := h.bound _ hactive
      have hle := hmirror.request_le hother
      omega
    have htotal := h.total
    rw [htarget, Table.size_insert _ hnew]
    simp only
    omega

/-- The request of a breakpoint that is unbound goes to the cleared ones. -/
theorem drop (h : Accounted m) (hmirror : Mirror m) {id : Nat} {request : Int}
    (hbound : m.requestOf? id = some request)
    (htarget : m'.target = (Target.clear m.target request).2)
    (hbindings : ∀ j, m'.requestOf? j = if j = id then none else m.requestOf? j) :
    Accounted m' where
  bound k hactive := by
    have hfound : m'.target.requests.find? k =
        if k = request then none else m.target.requests.find? k := by
      rw [htarget]
      exact ScriptedTarget.find?_clear hmirror.connected request k
    rw [Table.contains, hfound] at hactive
    split at hactive
    · contradiction
    next hne =>
      obtain ⟨j, hother⟩ := h.bound k hactive
      refine ⟨j, ?_⟩
      rw [hbindings, if_neg, hother]
      rintro rfl
      rw [hbound] at hother
      exact hne (Option.some.inj hother).symm
  total := by
    rw [htarget]
    have hcreated := (ScriptedTarget.clear_fields m.target request).2
    have hsize := ScriptedTarget.size_clear hmirror.connected (hmirror.contains_of_bound hbound)
    exact hcreated.trans (h.total.trans hsize.symm)

theorem destroy (h : Accounted m) (hmirror : Mirror m) (id : Nat) :
    Accounted (m.destroy id).2 := by
  cases hfind : m.find? id with
  | none => exact (destroy_of_none hfind).symm ▸ h
  | some bp =>
      cases hbinding : bp.binding with
      | none =>
          have hbindings := requestOf?_destroy_of_unbound (requestOf?_of_unbound hfind hbinding)
          rw [destroy_of_unbound hfind hbinding] at hbindings ⊢
          exact h.keep (fun _ => rfl) rfl rfl hbindings
      | some binding =>
          have hbindings := requestOf?_destroy m id
          rw [destroy_of_bound hfind hbinding] at hbindings ⊢
          exact h.drop hmirror (requestOf?_of_bound hfind hbinding) rfl hbindings

/-- As long as the target lives, each elementary change accounts for its requests. -/
theorem change (h : Accounted m) (hmirror : Mirror m) (hm : m.Orderly)
    (hchange : Change (.scripted False) m m') : Accounted m' := by
  cases hchange with
  | drift hdrift =>
      obtain ⟨hrequests, hcreated, hcleared, -⟩ := hdrift m.target
      exact h.keep (fun _ => by rw [hrequests]) hcreated hcleared (requestOf?_of_eq rfl)
  | refuse harm =>
      obtain rfl := ScriptedTarget.arm_eq_error harm
      exact h.keep (fun _ => rfl) rfl rfl (requestOf?_of_eq rfl)
  | skipId => exact h.keep (fun _ => rfl) rfl rfl (requestOf?_of_eq rfl)
  | insert hnew _ => exact h.keep (fun _ => rfl) rfl rfl (requestOf?_of_new hm rfl hnew.binding_eq)
  | edit hfind => exact h.keep (fun _ => rfl) rfl rfl (requestOf?_of_update hfind rfl rfl)
  | restyle hfind _ =>
      exact h.keep (fun _ => rfl) rfl rfl
        (requestOf?_of_update hfind rfl (Breakpoint.request_markStale _))
  | toggle hfind _ => exact h.keep (fun _ => rfl) rfl rfl (requestOf?_of_update hfind rfl rfl)
  | switch hfind _ _ => exact h.switch hmirror rfl (requestOf?_of_update hfind rfl rfl)
  | bind hfind hunbound harm =>
      obtain ⟨rfl, rfl⟩ := ScriptedTarget.arm_eq_ok harm
      exact h.bind hmirror (requestOf?_of_unbound hfind hunbound) rfl (requestOf?_of_insert rfl rfl)
  | release hfind hbound =>
      exact h.drop hmirror (requestOf?_of_bound hfind hbound) rfl (requestOf?_of_insert rfl rfl)
  | forget hdeath _ _ => exact hdeath.elim
  | expire hfind _ => exact h.switch hmirror rfl (requestOf?_of_update hfind rfl rfl)
  | restart _ hfind _ => exact h.keep (fun _ => rfl) rfl rfl (requestOf?_of_update hfind rfl rfl)
  | rearm _ hfind _ _ => exact h.switch hmirror rfl (requestOf?_of_update hfind rfl rfl)
  | destroy id => exact h.destroy hmirror id
  | regroup _ => exact h.keep (fun _ => rfl) rfl rfl (requestOf?_of_eq rfl)
  | transfer hfind _ => exact h.keep (fun _ => rfl) rfl rfl (requestOf?_of_update hfind rfl rfl)
  | removeGroup _ =>
      refine (foldl_destroy_induction (P := fun m => Mirror m ∧ Accounted m)
        (fun _ id h => ⟨h.1.destroy id, h.2.destroy h.1 id⟩) _ ⟨hmirror.regroup _, ?_⟩).2
      exact h.keep (fun _ => rfl) rfl rfl (requestOf?_of_eq rfl)

theorem leads (h : Accounted m) (hmirror : Mirror m) (hm : m.Orderly)
    (hleads : Leads (.scripted False) m m') : Accounted m' := by
  induction hleads with
  | refl => exact h
  | tail hbefore hchange ih =>
      exact ih.change (hmirror.leads hm hbefore) (Leads.orderly hbefore hm) hchange

end Accounted

/-- Whatever happens on a connected scripted target whose requests are left to the registry: every
bound breakpoint has an active request that reflects it.  As long as the target lives, these are
all the active requests, one for each bound breakpoint, and every other request was cleared. -/
theorem run_mirrors {kit : Kit} (hkit : kit.Faithful) (settings : Settings)
    {moves : List (Move ScriptedTarget)}
    (hmoves : ∀ change, .outside change ∈ moves → ScriptedTarget.KeepsRequests change) :
    let m := (create .initial kit settings).run moves
    (∀ id bp binding, m.find? id = some bp → bp.binding = some binding →
      ∃ armed, m.target.requests.find? binding.request = some armed ∧
        armed.Reflects bp binding) ∧
    (.event .vmDeath ∉ moves →
      (∀ request, m.target.requests.contains request = true ↔
        ∃! id, m.requestOf? id = some request) ∧
      m.target.created = m.target.requests.size + m.target.cleared.length) := by
  intro m
  have hempty : (create ScriptedTarget.initial kit settings).Orderly :=
    create_orderly _ kit settings
  have hleads : ∀ deaths, (.event .vmDeath ∈ moves → deaths) →
      Leads (.scripted deaths) (create .initial kit settings) m := fun deaths hdeaths =>
    run_leads hkit hempty fun move hmove => Move.within_of
      (fun change heq => hmoves change (heq ▸ hmove)) (fun heq => hdeaths (heq ▸ hmove))
      fun _ _ => trivial
  have hmirror : Mirror m :=
    (Mirror.create kit settings).leads hempty (hleads True fun _ => trivial)
  refine ⟨hmirror.reflects, fun halive => ?_⟩
  have haccounted : Accounted m :=
    (Accounted.create kit settings).leads (Mirror.create kit settings) hempty (hleads False halive)
  refine ⟨fun request => ⟨fun hactive => ?_, fun hbound => ?_⟩, haccounted.total⟩
  · obtain ⟨id, hbound⟩ := haccounted.bound request hactive
    exact ⟨id, hbound, fun j hother => hmirror.routing.requestOf?_inj hother hbound⟩
  · exact hmirror.contains_of_bound hbound.exists.choose_spec

/-- After a change of policy the new request has the new policy, and the old one is cleared. -/
theorem run_mirrors_restyled :
    let m := (create ScriptedTarget.initial .standard .standard).run
      [.outside fun t => (t.load "Main" "Main.java").2,
        .createSpec .uncaughtException GroupTree.root, .setEnabled 1 false, .setPolicy 1 .nothing,
        .setEnabled 1 true]
    (∃ armed, m.target.requests.find? 2 = some armed ∧ armed.spec.policy = .nothing) ∧
      (∃! id, m.requestOf? id = some 2) ∧
      2 = m.target.requests.size + m.target.cleared.length := by
  intro m
  have h := run_mirrors Kit.standard_faithful .standard (show ∀ change, Move.outside change ∈
      [.outside fun t : ScriptedTarget => (t.load "Main" "Main.java").2,
        .createSpec .uncaughtException GroupTree.root, .setEnabled 1 false, .setPolicy 1 .nothing,
        .setEnabled 1 true] → ScriptedTarget.KeepsRequests change by
    simp only [List.mem_cons, Move.outside.injEq, reduceCtorEq, List.not_mem_nil, or_false]
    rintro change rfl t
    exact ⟨rfl, rfl, rfl, rfl⟩)
  obtain ⟨armed, harmed, hreflects⟩ := h.1 1 _ _ rfl rfl
  obtain ⟨hexact, htotal⟩ := h.2 (by simp)
  exact ⟨⟨armed, harmed, hreflects.policy_eq rfl⟩, (hexact 2).mp (by decide), htotal⟩

end Registry

end Breakpoints
