import Breakpoints.Proofs.Registry.Effect

/-!
Hits of different breakpoints.  A hit touches only the breakpoint that its request belongs to, so
two hits of different breakpoints give the same in either order.
-/

namespace Breakpoints.Registry

/-- Everything is left alone but one breakpoint, its membership and its request. -/
structure Confined (id : Nat) (request : Int) (m m' : Registry ScriptedTarget) : Prop where
  kit : m'.kit = m.kit
  settings : m'.settings = m.settings
  nextId : m'.nextId = m.nextId
  breakpoints : ∀ j, j ≠ id → m'.find? j = m.find? j
  routes : ∀ other, other ≠ request → m'.requests.find? other = m.requests.find? other
  shape : GroupTree.SameShape m.groups m'.groups
  flags : ∀ group, m'.groups.isEnabled group = m.groups.isEnabled group
  members : ∀ group j, j ≠ id → m'.groups.isMember group j = m.groups.isMember group j
  target : m'.target.bare = m.target.bare
  armed : ∀ other, other ≠ request →
    m'.target.requests.find? other = m.target.requests.find? other

/-- A breakpoint is gone, with its membership, its route and its request. -/
structure Removed (id : Nat) (request : Int) (m m' : Registry ScriptedTarget) : Prop where
  breakpoint : m'.find? id = none
  route : m'.requests.find? request = none
  members : ∀ group, m'.groups.isMember group id = false
  armed : m'.target.requests.find? request = none
  cleared : m'.target.cleared =
    m.target.cleared ++ if m.target.requests.contains request then [request] else []

/-- A breakpoint has another count, and its request is disarmed if it has expired just now. -/
structure Counted (bp : Breakpoint) (id : Nat) (report : HitReport)
    (m m' : Registry ScriptedTarget) : Prop where
  breakpoint : m'.find? id = some
    { bp with stopCount := report.stopCount, expired := report.expired }
  routes : m'.requests = m.requests
  groups : m'.groups = m.groups
  armed : m'.target.requests.find? report.request =
    (m.target.requests.find? report.request).map fun armed =>
      { armed with enabled := armed.enabled && !(report.expired && !bp.expired) }
  cleared : m'.target.cleared = m.target.cleared

/-- Two registries differ at most in the order in which the target has cleared requests. -/
structure SameUpToClearing (m m' : Registry ScriptedTarget) : Prop where
  rest : m' = { m with target := { m.target with cleared := m'.target.cleared } }
  cleared : m'.target.cleared.Perm m.target.cleared

variable {start : ScriptedTarget} {m m' : Registry ScriptedTarget}

theorem SameUpToClearing.of_parts (hkit : m'.kit = m.kit) (hsettings : m'.settings = m.settings)
    (hnextId : m'.nextId = m.nextId) (hfind : ∀ id, m'.find? id = m.find? id)
    (hroutes : ∀ request, m'.requests.find? request = m.requests.find? request)
    (hgroups : m'.groups = m.groups) (hbare : m'.target.bare = m.target.bare)
    (harmed : ∀ request, m'.target.requests.find? request = m.target.requests.find? request)
    (hcleared : m'.target.cleared.Perm m.target.cleared) : SameUpToClearing m m' := by
  refine ⟨?_, hcleared⟩
  have htarget := ScriptedTarget.eq_of_bare hbare harmed
  have hbreakpoints : m'.breakpoints = m.breakpoints := Table.ext_find? hfind
  have hrequests : m'.requests = m.requests := Table.ext_find? hroutes
  cases m
  cases m'
  simp only [mk.injEq] at hkit hsettings hnextId hgroups htarget hbreakpoints hrequests ⊢
  exact ⟨htarget, hkit, hsettings, hgroups, hbreakpoints, hrequests, hnextId⟩

section Effect

variable {e e' : HitEffect}

theorem Confined.of_fits (h : e.Fits m) : Confined e.id e.request m (e.apply m) where
  kit := (e.fields_apply m).1
  settings := (e.fields_apply m).2.1
  nextId := (e.fields_apply m).2.2
  breakpoints j hne := by rw [e.find?_apply, if_neg hne]
  routes other hne := by rw [h.route_apply, if_neg fun both => hne both.2]
  shape := e.shape_apply m
  flags := e.isEnabled_apply m
  members group j hne := by rw [h.isMember_apply, if_neg fun both => hne both.2]
  target := h.bare_apply
  armed other hne := by rw [h.armed_apply, if_neg hne]

theorem Removed.of_fits (h : e.Fits m) (hdestroys : e.destroys = true) :
    Removed e.id e.request m (e.apply m) where
  breakpoint := by
    rw [e.find?_apply, if_pos rfl]
    exact Option.isNone_iff_eq_none.mp hdestroys
  route := by rw [h.route_apply, if_pos ⟨hdestroys, rfl⟩]
  members group := by rw [h.isMember_apply, if_pos ⟨hdestroys, rfl⟩]
  armed := by rw [h.armed_apply, if_pos rfl, HitEffect.rearmed, if_pos hdestroys]
  cleared := by simp [h.cleared_apply, hdestroys]

theorem Counted.of_fits {bp : Breakpoint} {id : Nat} {request : Int} {chainEnabled : Bool}
    {state : TargetState} (h : (bp.hit id request chainEnabled state).2.2.Fits m)
    (hkept : (bp.hit id request chainEnabled state).1.destroyed = false) :
    Counted bp id (bp.hit id request chainEnabled state).1 m
      ((bp.hit id request chainEnabled state).2.2.apply m) := by
  have hleft := bp.hit_left id request chainEnabled state
  have hdisarms := bp.hit_disarms id request chainEnabled state
  have hdestroys := HitEffect.destroys_hit bp id request chainEnabled state
  rw [hkept, if_neg Bool.false_ne_true] at hleft
  rw [hkept] at hdestroys
  constructor
  · rw [HitEffect.find?_apply, hleft]
    exact if_pos rfl
  · rw [HitEffect.apply_of_some hleft]
    rfl
  · rw [HitEffect.apply_of_some hleft]
    rfl
  · have harmed := h.armed_apply request
    rw [HitEffect.rearmed, hdestroys, hdisarms, if_neg Bool.false_ne_true] at harmed
    exact harmed.trans (if_pos rfl)
  · rw [h.cleared_apply, hdestroys, if_neg fun both => Bool.false_ne_true both.1, List.append_nil]

/-- Effects on different breakpoints do not meet. -/
theorem SameUpToClearing.of_fits (h : e.Fits m) (h' : e'.Fits m) (hid : e.id ≠ e'.id)
    (hrequest : e.request ≠ e'.request) (hnext : e'.Fits (e.apply m))
    (hnext' : e.Fits (e'.apply m)) :
    SameUpToClearing (e.apply (e'.apply m)) (e'.apply (e.apply m)) := by
  obtain ⟨hkit, hsettings, hnextId⟩ := e.fields_apply m
  obtain ⟨hkit', hsettings', hnextId'⟩ := e'.fields_apply m
  obtain ⟨hkit₁, hsettings₁, hnextId₁⟩ := e'.fields_apply (e.apply m)
  obtain ⟨hkit₂, hsettings₂, hnextId₂⟩ := e.fields_apply (e'.apply m)
  have hshape : GroupTree.SameShape (e.apply (e'.apply m)).groups (e'.apply (e.apply m)).groups :=
    ((e'.shape_apply m).trans (e.shape_apply _)).symm.trans
      ((e.shape_apply m).trans (e'.shape_apply _))
  apply of_parts
  · rw [hkit₁, hkit₂, hkit, hkit']
  · rw [hsettings₁, hsettings₂, hsettings, hsettings']
  · rw [hnextId₁, hnextId₂, hnextId, hnextId']
  · intro j
    simp only [HitEffect.find?_apply]
    by_cases hj : j = e.id
    · simp [hj, hid]
    · simp [hj]
  · intro request
    simp only [hnext.route_apply, hnext'.route_apply, h.route_apply, h'.route_apply]
    split
    · split <;> rfl
    · rfl
  · apply hshape.eq
    · intro group
      simp only [HitEffect.isEnabled_apply]
    · intro group j
      simp only [hnext.isMember_apply, hnext'.isMember_apply, h.isMember_apply, h'.isMember_apply]
      split
      · split <;> rfl
      · rfl
  · rw [hnext.bare_apply, hnext'.bare_apply, h.bare_apply, h'.bare_apply]
  · intro request
    simp only [hnext.armed_apply, hnext'.armed_apply, h.armed_apply, h'.armed_apply]
    by_cases hr : request = e.request
    · simp [hr, hrequest]
    · simp [hr]
  · -- whichever comes first, each request is active when its turn comes
    rw [hnext.cleared_apply, hnext'.cleared_apply, h.cleared_apply, h'.cleared_apply,
      h.contains_apply hrequest.symm, h'.contains_apply hrequest, List.append_assoc,
      List.append_assoc]
    exact List.perm_append_comm.append_left m.target.cleared

end Effect

/-- What is known of a registry that has come from a run: it is in order, and its table of requests
agrees with the bindings. -/
structure Linked (start : ScriptedTarget) (m : Registry ScriptedTarget) : Prop where
  orderly : m.Orderly
  grouped : Grouped (fun _ => False) m
  shaped : m.groups.Shaped
  routing : Routing ScriptedTarget.Counts start m

namespace Linked

theorem create (start : ScriptedTarget) (kit : Kit) (settings : Settings) :
    Linked start (create start kit settings) where
  orderly := create_orderly start kit settings
  grouped := .create start kit settings
  shaped := .initial
  routing := .create start kit settings

theorem leads (h : Linked start m) (hleads : Leads (.drifting ScriptedTarget.Counts) m m') :
    Linked start m' where
  orderly := hleads.orderly h.orderly
  grouped := h.grouped.leads h.orderly hleads
  shaped := hleads.shaped h.shaped
  routing := h.routing.leads (ScriptedTarget.neverReissues_of_counts (fun _ h => h) start)
    h.orderly hleads

theorem onHit (h : Linked start m) (request : Int) (state : TargetState) :
    Linked start (m.onHit request state).2.2 :=
  h.leads (onHit_leads m request state)

/-- A request that no breakpoint is bound to has no entry. -/
theorem find?_request_eq_none (h : Linked start m) {request : Int}
    (hnone : ∀ id, m.requestOf? id ≠ some request) : m.requests.find? request = none := by
  cases hrouted : m.requests.find? request with
  | none => rfl
  | some id => exact absurd ((h.routing.exact request id).mp hrouted) (hnone id)

variable {id : Nat} {request : Int} {bp : Breakpoint}

theorem onHit_bound (h : Linked start m) (hfind : m.find? id = some bp)
    (hbound : m.requestOf? id = some request) (state : TargetState) :
    let result := bp.hit id request (m.groups.chainEnabled bp.group) state
    m.onHit request state = (result.1, result.2.1, result.2.2.apply m) :=
  onHit_eq ((h.routing.exact request id).mpr hbound) hfind state

theorem apply (h : Linked start m) (hfind : m.find? id = some bp)
    (hbound : m.requestOf? id = some request) (state : TargetState) :
    Linked start
      ((bp.hit id request (m.groups.chainEnabled bp.group) state).2.2.apply m) := by
  have hafter := h.onHit request state
  rw [h.onHit_bound hfind hbound] at hafter
  exact hafter

/-- A hit of another breakpoint comes to the same after the effect of a hit as before it. -/
theorem onHit_apply {e : HitEffect} (h : Linked start m) (hafter : Linked start (e.apply m))
    (hother : id ≠ e.id) (hfind : m.find? id = some bp)
    (hbound : m.requestOf? id = some request) (state : TargetState) :
    let result := bp.hit id request (m.groups.chainEnabled bp.group) state
    (e.apply m).onHit request state = (result.1, result.2.1, result.2.2.apply (e.apply m)) := by
  have hsame : (e.apply m).find? id = m.find? id := by rw [e.find?_apply, if_neg hother]
  have hbound' : (e.apply m).requestOf? id = some request := by
    rw [requestOf?, hsame]
    exact hbound
  have hchain : (e.apply m).groups.chainEnabled bp.group = m.groups.chainEnabled bp.group :=
    (e.shape_apply m).chainEnabled_eq h.shaped fun x _ => e.isEnabled_apply m x
  rw [← hchain]
  exact hafter.onHit_bound (hsame.trans hfind) hbound' state

/-- Two hits of different breakpoints give the same in either order. -/
theorem onHit_comm (h : Linked start m) (hconnected : m.target.disconnected = false)
    {i j : Nat} {first second : Int} (hne : i ≠ j) (hi : m.requestOf? i = some first)
    (hj : m.requestOf? j = some second) (state later : TargetState) :
    let once := m.onHit first state
    let other := m.onHit second later
    let twice := once.2.2.onHit second later
    let back := other.2.2.onHit first state
    back.1 = once.1 ∧ back.2.1 = once.2.1 ∧ twice.1 = other.1 ∧ twice.2.1 = other.2.1 ∧
      SameUpToClearing back.2.2 twice.2.2 := by
  intro once other twice back
  obtain ⟨bp, -, hfind, -⟩ := requestOf?_eq_some_iff.mp hi
  obtain ⟨bp', -, hfind', -⟩ := requestOf?_eq_some_iff.mp hj
  let hit := bp.hit i first (m.groups.chainEnabled bp.group) state
  let hit' := bp'.hit j second (m.groups.chainEnabled bp'.group) later
  have honce : once = (hit.1, hit.2.1, hit.2.2.apply m) := h.onHit_bound hfind hi state
  have hother : other = (hit'.1, hit'.2.1, hit'.2.2.apply m) := h.onHit_bound hfind' hj later
  have hlinked : Linked start (hit.2.2.apply m) := h.apply hfind hi state
  have hlinked' : Linked start (hit'.2.2.apply m) := h.apply hfind' hj later
  have htwice : twice = (hit'.1, hit'.2.1, hit'.2.2.apply (hit.2.2.apply m)) := by
    simp only [twice, honce]
    exact h.onHit_apply hlinked hne.symm hfind' hj later
  have hback : back = (hit.1, hit.2.1, hit.2.2.apply (hit'.2.2.apply m)) := by
    simp only [back, hother]
    exact h.onHit_apply hlinked' hne hfind hi state
  have hfits : hit.2.2.Fits m := ⟨h.grouped, hconnected, hi⟩
  have hfits' : hit'.2.2.Fits m := ⟨h.grouped, hconnected, hj⟩
  have hnext : hit'.2.2.Fits (hit.2.2.apply m) := hfits.next hfits' hne.symm hlinked.grouped
  have hnext' : hit.2.2.Fits (hit'.2.2.apply m) := hfits'.next hfits hne hlinked'.grouped
  rw [honce, hother, htwice, hback]
  exact ⟨rfl, rfl, rfl, rfl,
    .of_fits hfits hfits' hne (h.routing.request_ne hne hi hj) hnext hnext'⟩

/-- A hit that stops goes to a breakpoint that is enabled, with every group above it, and has not
expired. -/
theorem enabled_of_stop (h : Linked start m) {state : TargetState}
    (hstop : (bp.hit id request (m.groups.chainEnabled bp.group) state).1.decision = .stop) :
    bp.enabled = true ∧ bp.expired = false ∧
      ∃ line, m.groups.Climb bp.group line ∧ ∀ x ∈ line, m.groups.isEnabled x = true := by
  obtain ⟨-, hexpired, henabled, hchain⟩ :=
    Breakpoint.inForce_eq_true_iff.mp (Breakpoint.inForce_of_stop hstop)
  exact ⟨henabled, hexpired, (GroupTree.chainEnabled_eq_true_iff h.shaped).mp hchain⟩

end Linked

/-- Whatever has happened before, as long as the target is connected and counts on the requests that
it arms: a hit of a request that no breakpoint is bound to does nothing.  Any other hit leaves
everything alone but the breakpoint that is bound to its request: it destroys this breakpoint, with
its membership, its route and its request, if the report says so, and otherwise sets its count and
its expired flag, and disarms its request if it expires.  It stops only if the breakpoint was
enabled, with every group above it, and had not expired.  Two hits of different breakpoints give the
same reports, the same calls and the same registry in either order, up to the order in which the
target has cleared requests. -/
theorem run_apart (start : ScriptedTarget) {kit : Kit} (hkit : kit.Faithful) (settings : Settings)
    {moves : List (Move ScriptedTarget)}
    (hmoves : ∀ change, .outside change ∈ moves → ScriptedTarget.Counts change) :
    let m := (create start kit settings).run moves
    m.target.disconnected = false →
      (∀ request state, (∀ id, m.requestOf? id ≠ some request) →
        let report := (m.onHit request state).1
        report.breakpoint = none ∧ report.request = request ∧ report.decision = .proceed ∧
          report.policy = .nothing ∧ report.stopCount = 0 ∧ report.expired = false ∧
          report.destroyed = false ∧ report.conditionFailures = [] ∧
          report.monitorFailures = [] ∧ (m.onHit request state).2 = ([], m)) ∧
      (∀ request state id bp, m.find? id = some bp → m.requestOf? id = some request →
        let report := (m.onHit request state).1
        let after := (m.onHit request state).2.2
        report.breakpoint = some id ∧ report.request = request ∧ Confined id request m after ∧
          (report.destroyed = true → Removed id request m after) ∧
          (report.destroyed = false → Counted bp id report m after) ∧
          (report.decision = .stop → bp.enabled = true ∧ bp.expired = false ∧
            ∃ line, m.groups.Climb bp.group line ∧ ∀ x ∈ line, m.groups.isEnabled x = true)) ∧
      (∀ i j first second state later, i ≠ j →
        m.requestOf? i = some first → m.requestOf? j = some second →
        let once := m.onHit first state
        let other := m.onHit second later
        let twice := once.2.2.onHit second later
        let back := other.2.2.onHit first state
        back.1 = once.1 ∧ back.2.1 = once.2.1 ∧ twice.1 = other.1 ∧ twice.2.1 = other.2.1 ∧
          SameUpToClearing back.2.2 twice.2.2) := by
  intro m hconnected
  have hlinked : Linked start m :=
    (Linked.create start kit settings).leads (create_leads start hkit settings hmoves)
  refine ⟨fun request state hnone =>
      onHit_of_find?_eq_none (hlinked.find?_request_eq_none hnone) state, ?_,
    fun i j first second state later hne hi hj =>
      hlinked.onHit_comm hconnected hne hi hj state later⟩
  intro request state id bp hfind hbound report after
  have hhit := hlinked.onHit_bound hfind hbound state
  have hfits : (bp.hit id request (m.groups.chainEnabled bp.group) state).2.2.Fits m :=
    ⟨hlinked.grouped, hconnected, hbound⟩
  simp only [report, after, hhit]
  refine ⟨rfl, rfl, .of_fits hfits, fun hdestroyed => ?_, .of_fits hfits, hlinked.enabled_of_stop⟩
  rw [← HitEffect.destroys_hit] at hdestroyed
  exact .of_fits hfits hdestroyed

/-- One of two breakpoints is deleted with its first hit.  It is gone with its membership, and it
does not matter whether the other one is hit before or after. -/
theorem run_apart_expiring :
    let m := (create ScriptedTarget.initial .standard .standard).run
      [.createSpec .uncaughtException GroupTree.root, .createSpec .uncaughtException GroupTree.root,
        .setExpireCount 1 1, .setDeleteOnExpire 1 true]
    let after := (m.onHit 1 .unknown).2.2
    Removed 1 1 m after ∧ Confined 1 1 m after ∧
      SameUpToClearing ((m.onHit 2 .unknown).2.2.onHit 1 .unknown).2.2
        (after.onHit 2 .unknown).2.2 := by
  intro m after
  obtain ⟨-, hown, hboth⟩ := run_apart ScriptedTarget.initial Kit.standard_faithful .standard
    (show ∀ change, Move.outside change ∈
        [.createSpec .uncaughtException GroupTree.root,
          .createSpec .uncaughtException GroupTree.root,
          .setExpireCount 1 1, .setDeleteOnExpire 1 true] →
      ScriptedTarget.Counts change by simp) rfl
  obtain ⟨-, -, hconfined, hremoved, -, -⟩ := hown 1 .unknown 1 _ rfl rfl
  obtain ⟨-, -, -, -, hsame⟩ := hboth 1 2 1 2 .unknown .unknown (by decide) rfl rfl
  exact ⟨hremoved rfl, hconfined, hsame⟩

end Breakpoints.Registry
