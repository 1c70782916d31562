import Breakpoints.Proofs.Breakpoint.Session
import Breakpoints.Proofs.Registry.Expiry
import Breakpoints.Proofs.Registry.Pending
import Breakpoints.Proofs.Registry.Switch

/-!
Sessions of a breakpoint.  A reset begins a new one: nothing that happened before it makes a
difference to the hits that follow.  The groups are switched as one likes between the hits, which
reaches the breakpoint through the flag of its chain and in no other way.
-/

namespace Breakpoints

/-- A hit of a breakpoint, with the flags of groups that are set before it. -/
structure Visit where
  flags : List (Nat × Bool)
  state : TargetState

namespace GroupTree

/-- Sets flags of groups; nothing happens to those that are not there. -/
def switched (t : GroupTree) : List (Nat × Bool) → GroupTree
  | [] => t
  | (group, enabled) :: flags =>
    match t.setEnabled group enabled with
    | .ok t => t.switched flags
    | .error _ => t.switched flags

/-- How a row of visits looks from a group: the flag of its chain, and the state. -/
def chains (t : GroupTree) (group : Nat) : List Visit → List (Bool × TargetState)
  | [] => []
  | visit :: visits =>
    let t := t.switched visit.flags
    (t.chainEnabled group, visit.state) :: t.chains group visits

theorem length_chains (t : GroupTree) (group : Nat) (visits : List Visit) :
    (t.chains group visits).length = visits.length := by
  induction visits generalizing t with
  | nil => rfl
  | cons visit visits ih => rw [chains, List.length_cons, List.length_cons, ih]

end GroupTree

namespace Registry

section Visits

variable {τ : Type}

def switch (m : Registry τ) : List (Nat × Bool) → Registry τ
  | [] => m
  | (group, enabled) :: flags => (m.setGroupEnabled group enabled).2.switch flags

/-- Hits a request again and again, and lists the answers. -/
def visits [Target τ] (m : Registry τ) (request : Int) : List Visit → List (HitReport × List Call)
  | [] => []
  | visit :: visits =>
    let (report, calls, m) := (m.switch visit.flags).onHit request visit.state
    (report, calls) :: m.visits request visits

/-- Only the groups are switched. -/
theorem switch_eq (m : Registry τ) (flags : List (Nat × Bool)) :
    m.switch flags = { m with groups := m.groups.switched flags } := by
  induction flags generalizing m with
  | nil => rfl
  | cons flag flags ih =>
      obtain ⟨group, enabled⟩ := flag
      rw [switch, ih, GroupTree.switched, setGroupEnabled, changeGroups]
      cases m.groups.setEnabled group enabled with
      | error e => rfl
      | ok groups => rfl

variable [Target τ] {m : Registry τ} {id : Nat} {request : Int} {bp : Breakpoint}

/-- Hits of a request that leads to nobody are let pass. -/
theorem visits_of_unrouted (hnone : m.requests.find? request = none) (visits : List Visit) :
    m.visits request visits = visits.map fun _ => (.unrouted request, []) := by
  induction visits generalizing m with
  | nil => rfl
  | cons visit visits ih =>
      have hhit : (m.switch visit.flags).onHit request visit.state =
          (.unrouted request, [], m.switch visit.flags) := by
        rw [onHit, switch_eq, hnone]
      have hstill : (m.switch visit.flags).requests.find? request = none := by
        rw [switch_eq]
        exact hnone
      rw [Registry.visits, hhit, List.map_cons, ← ih hstill]

/-- The answers are those of the breakpoint that the request leads to. -/
theorem visits_eq_session (hrouted : m.requests.find? request = some id)
    (hfind : m.find? id = some bp) (hown : bp.binding.map (·.request) = some request)
    (visits : List Visit) :
    m.visits request visits = bp.session id request (m.groups.chains bp.group visits) := by
  induction visits generalizing m bp with
  | nil => rfl
  | cons visit visits ih =>
      let now : Registry τ := { m with groups := m.groups.switched visit.flags }
      let chainEnabled := now.groups.chainEnabled bp.group
      let result := bp.hit id request chainEnabled visit.state
      have hswitch : m.switch visit.flags = now := m.switch_eq visit.flags
      have hhit : now.onHit request visit.state = (result.1, result.2.1, result.2.2.apply now) :=
        onHit_eq (m := now) hrouted hfind visit.state
      rw [Registry.visits, hswitch, hhit, GroupTree.chains]
      cases hcase : result.2.2.left with
      | none =>
          obtain ⟨binding, hbinding, rfl⟩ := Option.map_eq_some_iff.mp hown
          have hgone : (result.2.2.apply now).requests.find? binding.request = none := by
            rw [HitEffect.apply_of_none hcase]
            change (now.destroy id).2.requests.find? _ = none
            rw [destroy_of_bound (m := now) hfind hbinding]
            exact Table.find?_erase_self _ _
          rw [Breakpoint.session_cons_of_none hcase]
          dsimp only
          rw [visits_of_unrouted hgone, List.map_const', List.map_const', GroupTree.length_chains]
      | some after =>
          -- only the count and the expired flag can differ, so the route is as before
          have hafter : some after = _ :=
            hcase.symm.trans (bp.hit_left id request chainEnabled visit.state)
          split at hafter
          · contradiction
          cases hafter
          rw [Breakpoint.session_cons_of_some hcase, HitEffect.apply_of_some hcase]
          exact congrArg (_ :: ·) (ih hrouted (Table.find?_insert_self _ _ _) hown)

end Visits

/-- A breakpoint starts anew: nothing is left of its count and of its expiry.  It is bound if it was
or if it means something now, and its request is armed if its own flag is on.  Everything else is as
it was. -/
structure Restarted (id : Nat) (bp : Breakpoint) (binding : Option Binding)
    (m m' : Registry ScriptedTarget) : Prop where
  breakpoints : ∀ j, m'.find? j =
    if j = id then some { bp with stopCount := 0, expired := false, binding } else m.find? j
  bound_iff : binding.isSome = true ↔
    bp.binding.isSome = true ∨ ∃ anchor, bp.spec.resolve m.target = .ok (some anchor)
  bound_eq : bp.binding.isSome = true → binding = bp.binding
  armed : ∀ b, binding = some b → ∃ armed,
    m'.target.requests.find? b.request = some armed ∧ armed.enabled = bp.enabled
  routed : ∀ b, binding = some b → m'.requests.find? b.request = some id
  groups : m'.groups = m.groups
  kit : m'.kit = m.kit
  settings : m'.settings = m.settings
  nextId : m'.nextId = m.nextId

section Reset

variable {m : Registry ScriptedTarget} {id : Nat} {bp : Breakpoint}

/-- A bound breakpoint stays bound. -/
theorem Mirror.reset_of_bound (h : Mirror m) {binding : Binding} (hfind : m.find? id = some bp)
    (hlive : bp.destroyed = false) (hbinding : bp.binding = some binding) :
    ∃ target, m.reset id = (.ok (), { m.store bp.reset id with target }) := by
  have hguard : ¬ bp.destroyed = true := by simp [hlive]
  have hswitch : (Target.setArmed m.target binding.request true).1 = .ok () :=
    ScriptedTarget.setArmed_of_active h.connected
      (h.contains_of_bound (requestOf?_of_bound hfind hbinding)) true
  simp only [reset, hfind, if_neg hguard, hbinding, store_target]
  generalize Target.setArmed m.target binding.request true = result at hswitch ⊢
  obtain ⟨answer, target⟩ := result
  cases hswitch
  split
  · exact ⟨target, rfl⟩
  · exact ⟨m.target, rfl⟩

/-- A breakpoint that is not bound is tried again, and bound if it means something now. -/
theorem reset_of_unbound (hconnected : m.target.disconnected = false)
    (hfind : m.find? id = some bp) (hlive : bp.destroyed = false) (hbinding : bp.binding = none) :
    m.reset id = (.ok (), match bp.spec.resolve m.target with
      | .ok (some anchor) =>
        let result := m.target.arm (bp.reset.requestFor anchor)
        { m.store { bp.reset with binding := some ⟨m.target.created + 1, anchor, false⟩ } id with
          target := result.2
          requests := m.requests.insert (m.target.created + 1) id }
      | _ => m.store bp.reset id) := by
  have hguard : ¬ bp.destroyed = true := by simp [hlive]
  have hunbound : (m.store bp.reset id).unbound? id = some bp.reset := by
    refine unbound?_eq_some_iff.mpr ⟨Table.find?_insert_self _ _ _, ?_, hlive⟩
    rw [Breakpoint.resolved, Breakpoint.reset, hbinding, Option.isSome_none]
  simp only [reset, hfind, if_neg hguard, hbinding]
  rw [resolve_of_unbound hunbound, store_target,
    show bp.reset.spec.resolve m.target = bp.spec.resolve m.target from rfl]
  cases bp.spec.resolve m.target with
  | error e => rfl
  | ok found =>
      cases found with
      | none => rfl
      | some anchor =>
          have harm := ScriptedTarget.arm_of_connected hconnected (bp.reset.requestFor anchor)
          have harm' : Target.arm m.target (bp.reset.requestFor anchor) = _ := harm
          dsimp only
          rw [harm, harm']
          simp only [enter, store, Table.insert_insert]
          rfl

/-- After a reset the request is in step with its breakpoint, and leads to it. -/
theorem Mirror.restarted (h : Mirror m) (hm : m.Orderly) {binding : Option Binding}
    {target : ScriptedTarget} {requests : Table Int Nat}
    (hreset : m.reset id =
      (.ok (), { m.store { bp.reset with binding } id with target, requests }))
    (hiff : binding.isSome = true ↔
      bp.binding.isSome = true ∨ ∃ anchor, bp.spec.resolve m.target = .ok (some anchor))
    (heq : bp.binding.isSome = true → binding = bp.binding) :
    Restarted id bp binding m (m.reset id).2 := by
  have hleads : Leads (.scripted True) m (m.reset id).2 := reset_leads m trivial
  have hafter : Mirror (m.reset id).2 := h.leads hm hleads
  rw [hreset] at hafter ⊢
  have hfound : ∀ j, find? { m.store { bp.reset with binding } id with target, requests } j =
      if j = id then some { bp.reset with binding } else m.find? j := find?_of_insert rfl
  have hown := (hfound id).trans (if_pos rfl)
  refine ⟨hfound, hiff, heq, fun b hb => ?_, fun b hb => ?_, rfl, rfl, rfl, rfl⟩
  · obtain ⟨armed, harmed, hreflects⟩ := hafter.reflects id _ b hown hb
    refine ⟨armed, harmed, hreflects.enabled_eq.trans ?_⟩
    rw [Breakpoint.reset, Bool.not_false, Bool.and_true]
  · exact (hafter.routing.exact b.request id).mpr (requestOf?_of_bound hown hb)

/-- A reset of a live breakpoint succeeds, and the breakpoint starts anew. -/
theorem Mirror.restarts (h : Mirror m) (hm : m.Orderly) (hfind : m.find? id = some bp) :
    (m.reset id).1 = .ok () ∧ ∃ binding, Restarted id bp binding m (m.reset id).2 := by
  have hlive : bp.destroyed = false := (hm id bp hfind).2.2
  cases hbinding : bp.binding with
  | some binding =>
      obtain ⟨target, hreset⟩ := h.reset_of_bound hfind hlive hbinding
      refine ⟨congrArg Prod.fst hreset, bp.binding, h.restarted hm hreset ?_ fun _ => rfl⟩
      simp [hbinding]
  | none =>
      have hreset := reset_of_unbound h.connected hfind hlive hbinding
      refine ⟨congrArg Prod.fst hreset, ?_⟩
      cases hmeaning : bp.spec.resolve m.target with
      | error e =>
          rw [hmeaning] at hreset
          refine ⟨bp.binding, h.restarted hm hreset ?_ fun _ => rfl⟩
          simp [hbinding, hmeaning]
      | ok found =>
          rw [hmeaning] at hreset
          cases found with
          | none =>
              refine ⟨bp.binding, h.restarted hm hreset ?_ fun _ => rfl⟩
              simp [hbinding, hmeaning]
          | some anchor =>
              refine ⟨_, h.restarted hm hreset ?_ ?_⟩
              · simp [hmeaning]
              · simp [hbinding]

end Reset

/-- A reset of a live breakpoint succeeds, whatever has happened on a connected scripted target
whose requests are left to the registry.  The breakpoint keeps its configuration and its group, its
count and its expiry are forgotten, it is bound if it was or if it means something now, and its
request is armed if its own flag is on.  From then on it does not matter that it had a past:
whatever groups are switched between its hits, these are answered as those of any breakpoint that
was not hit yet and is configured alike, in whatever registry, if the chains of groups above the two
look the same. -/
theorem run_resets {kit : Kit} (hkit : kit.Faithful) (settings : Settings)
    {moves : List (Move ScriptedTarget)}
    (hmoves : ∀ change, .outside change ∈ moves → ScriptedTarget.KeepsRequests change) :
    let m := (create .initial kit settings).run moves
    ∀ id bp, m.find? id = some bp →
      (m.reset id).1 = .ok () ∧ ∃ binding, Restarted id bp binding m (m.reset id).2 ∧
        ∀ b, binding = some b → ∀ {τ : Type} [Target τ] (n : Registry τ) (request : Int)
          (other : Nat) (fresh : Breakpoint), n.requests.find? request = some other →
          n.find? other = some fresh → fresh.binding.map (·.request) = some request →
          fresh.FreshLike bp → ∀ row row' : List Visit,
          m.groups.chains bp.group row = n.groups.chains fresh.group row' →
          unlabelled ((m.reset id).2.visits b.request row) =
            unlabelled (n.visits request row') := by
  intro m id bp hfind
  obtain ⟨-, hm⟩ := run_orderly hkit settings ScriptedTarget.initial moves
  have hmirror : Mirror m := Mirror.run hkit settings hmoves
  obtain ⟨hok, binding, hrestarted⟩ := hmirror.restarts hm hfind
  refine ⟨hok, binding, hrestarted, ?_⟩
  rintro b rfl τ _ n request other fresh hrouted hother hown hfresh row row' hchains
  have hnow := (hrestarted.breakpoints id).trans (if_pos rfl)
  rw [visits_eq_session (hrestarted.routed b rfl) hnow rfl, hrestarted.groups,
    visits_eq_session hrouted hother hown, ← hchains]
  exact (hfresh.alike (hm id bp hfind).2.2 _).session _ _ _ _ _

/-- A breakpoint that expired with its first hit is reset, and another one is created beside it.
Both are let pass while the root is switched off, and stop and expire with the hit after that. -/
theorem run_resets_expired :
    let m := (create ScriptedTarget.initial .standard .standard).run
      [.createSpec .uncaughtException GroupTree.root, .setExpireCount 1 1, .hit 1 .unknown]
    let n := (m.reset 1).2.run
      [.createSpec .uncaughtException GroupTree.root, .setExpireCount 2 1]
    let row : List Visit := [⟨[(GroupTree.root, false)], .unknown⟩,
      ⟨[(GroupTree.root, true)], .unknown⟩, ⟨[], .unknown⟩]
    (m.find? 1).map (·.expired) = some true ∧ (m.reset 1).1 = .ok () ∧
      unlabelled ((m.reset 1).2.visits 1 row) = unlabelled (n.visits 2 row) ∧
      (n.visits 2 row).map (·.1.decision) = [.proceed, .stop, .proceed] := by
  intro m n row
  have hmoves : ∀ change, Move.outside change ∈
      [.createSpec .uncaughtException GroupTree.root, .setExpireCount 1 1, .hit 1 .unknown] →
        ScriptedTarget.KeepsRequests change := by simp
  obtain ⟨hok, binding, hrestarted, hlike⟩ :=
    run_resets Kit.standard_faithful .standard hmoves 1 _ rfl
  have hbound : binding = some ⟨1, .exception none, false⟩ := hrestarted.bound_eq rfl
  have hrouted : n.requests.find? 2 = some 2 := by decide +kernel
  have hchains : m.groups.chains GroupTree.root row = n.groups.chains GroupTree.root row := by
    decide +kernel
  have hsame := hlike _ hbound n 2 2 _ hrouted rfl rfl
    ⟨rfl, rfl, rfl, rfl, rfl, rfl, rfl, rfl, rfl, rfl⟩ row row hchains
  exact ⟨rfl, hok, hsame, by decide +kernel⟩

end Registry

end Breakpoints
