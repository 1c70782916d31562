import Breakpoints.Proofs.GroupTree.Chain
import Breakpoints.Proofs.Registry.Upkeep
import Breakpoints.Proofs.Registry.Routing

/-!
What a hit leaves behind.  A hit is decided by its breakpoint and by the flags above it; its effect
is confined to that breakpoint and to what belongs to it.  Each part of a registry is described
after the effect, so that effects on different breakpoints can be compared part by part.
-/

namespace Breakpoints

/-- The effect of a hit: of its breakpoint it leaves something, or nothing if it destroys it, and it
may disarm its request. -/
structure HitEffect where
  id : Nat
  request : Int
  left : Option Breakpoint
  disarms : Bool

namespace Breakpoint

/-- The report of a hit, its calls and its effect. -/
def hit (bp : Breakpoint) (id : Nat) (request : Int) (chainEnabled : Bool)
    (state : TargetState) : HitReport × List Call × HitEffect :=
  let (outcome, after) := bp.evaluate chainEnabled state
  let destroyed := outcome.expiredNow && after.deleteOnExpire
  let report : HitReport :=
    { breakpoint := some id
      request
      decision := outcome.decision
      policy := after.policy
      stopCount := after.stopCount
      expired := after.expired
      destroyed
      conditionFailures := outcome.conditionFailures.map (·.message)
      monitorFailures := outcome.monitorFailures.map (·.message) }
  (report, outcome.calls,
    ⟨id, request, if destroyed then none else some after, outcome.expiredNow⟩)

variable (bp : Breakpoint) (id : Nat) (request : Int) (chainEnabled : Bool) (state : TargetState)

/-- What is left of a breakpoint is told by the report. -/
theorem hit_left : (bp.hit id request chainEnabled state).2.2.left =
    if (bp.hit id request chainEnabled state).1.destroyed then none
    else some
      { bp with
        stopCount := (bp.hit id request chainEnabled state).1.stopCount
        expired := (bp.hit id request chainEnabled state).1.expired } := by
  rw [hit]
  simp only [← evaluate_snd_eq]

/-- The request is disarmed if the breakpoint has expired just now. -/
theorem hit_disarms : (bp.hit id request chainEnabled state).2.2.disarms =
    ((bp.hit id request chainEnabled state).1.expired && !bp.expired) :=
  bp.expiredNow_evaluate chainEnabled state

end Breakpoint

namespace HitEffect

section Target

variable {τ : Type} [Target τ]

def apply (e : HitEffect) (m : Registry τ) : Registry τ :=
  match e.left with
  | none => (m.destroy e.id).2
  | some bp =>
    if e.disarms then
      { m.store bp e.id with target := (Target.setArmed m.target e.request false).2 }
    else m.store bp e.id

variable {e : HitEffect}

theorem apply_of_none (h : e.left = none) (m : Registry τ) : e.apply m = (m.destroy e.id).2 := by
  rw [apply, h]

theorem apply_of_some {bp : Breakpoint} (h : e.left = some bp) (m : Registry τ) :
    e.apply m =
      { m.store bp e.id with
        target := if e.disarms then (Target.setArmed m.target e.request false).2
          else m.target } := by
  rw [apply, h]
  cases e.disarms with
  | false => rfl
  | true => rfl

/-- One look-up of a breakpoint changes. -/
theorem find?_apply (e : HitEffect) (m : Registry τ) (j : Nat) :
    (e.apply m).find? j = if j = e.id then e.left else m.find? j := by
  cases hleft : e.left with
  | none => rw [apply_of_none hleft, Registry.find?_destroy]
  | some bp =>
      rw [apply_of_some hleft]
      exact Table.find?_insert m.breakpoints e.id bp j

theorem fields_apply (e : HitEffect) (m : Registry τ) :
    (e.apply m).kit = m.kit ∧ (e.apply m).settings = m.settings ∧
      (e.apply m).nextId = m.nextId := by
  cases hleft : e.left with
  | none =>
      rw [apply_of_none hleft]
      exact Registry.destroy_fields m e.id
  | some bp =>
      rw [apply_of_some hleft]
      exact ⟨rfl, rfl, rfl⟩

theorem shape_apply (e : HitEffect) (m : Registry τ) :
    GroupTree.SameShape m.groups (e.apply m).groups := by
  cases hleft : e.left with
  | none =>
      rw [apply_of_none hleft]
      exact Registry.destroy_sameShape m e.id
  | some bp =>
      rw [apply_of_some hleft]
      exact .refl m.groups

theorem isEnabled_apply (e : HitEffect) (m : Registry τ) (group : Nat) :
    (e.apply m).groups.isEnabled group = m.groups.isEnabled group := by
  cases hleft : e.left with
  | none =>
      rw [apply_of_none hleft]
      cases hfind : m.find? e.id with
      | none => rw [Registry.destroy_of_none hfind]
      | some bp => rw [Registry.destroy_groups hfind, GroupTree.isEnabled_removeMember]
  | some bp => rw [apply_of_some hleft]; rfl

end Target

/-- Whether nothing is left of the breakpoint. -/
def destroys (e : HitEffect) : Bool :=
  e.left.isNone

theorem destroys_hit (bp : Breakpoint) (id : Nat) (request : Int) (chainEnabled : Bool)
    (state : TargetState) : (bp.hit id request chainEnabled state).2.2.destroys =
      (bp.hit id request chainEnabled state).1.destroyed := by
  rw [destroys, bp.hit_left]
  cases (bp.hit id request chainEnabled state).1.destroyed with
  | false => rfl
  | true => rfl

/-- What becomes of the request of the breakpoint in the target. -/
def rearmed (e : HitEffect) (armed : Option ArmedRequest) : Option ArmedRequest :=
  if e.destroys then none
  else armed.map fun armed => { armed with enabled := armed.enabled && !e.disarms }

/-- An effect belongs to a bound breakpoint of a registry whose target is connected. -/
structure Fits (e : HitEffect) (m : Registry ScriptedTarget) : Prop where
  grouped : Registry.Grouped (fun _ => False) m
  connected : m.target.disconnected = false
  owned : m.requestOf? e.id = some e.request

namespace Fits

variable {e : HitEffect} {m : Registry ScriptedTarget} (h : e.Fits m)

include h

/-- A breakpoint goes with its membership, its route and its request. -/
theorem apply_of_none (hleft : e.left = none) :
    ∃ group, e.apply m =
      { m with
        target := (m.target.clear e.request).2
        breakpoints := m.breakpoints.erase e.id
        requests := m.requests.erase e.request
        groups := (m.groups.removeMember group e.id).2 } := by
  obtain ⟨bp, binding, hfind, hbound, hrequest⟩ := Registry.requestOf?_eq_some_iff.mp h.owned
  refine ⟨bp.group, ?_⟩
  rw [HitEffect.apply_of_none hleft, Registry.destroy_of_bound hfind hbound, hrequest]
  rfl

theorem isMember_apply (group j : Nat) : (e.apply m).groups.isMember group j =
    if e.destroys ∧ j = e.id then false else m.groups.isMember group j := by
  cases hleft : e.left with
  | none => simp [HitEffect.apply_of_none hleft, h.grouped.isMember_destroy, destroys, hleft]
  | some bp => simp [apply_of_some hleft, destroys, hleft, Registry.store]

theorem route_apply (request : Int) : (e.apply m).requests.find? request =
    if e.destroys ∧ request = e.request then none else m.requests.find? request := by
  cases hleft : e.left with
  | none =>
      obtain ⟨group, happly⟩ := h.apply_of_none hleft
      simp [happly, Table.find?_erase, destroys, hleft]
  | some bp => simp [apply_of_some hleft, destroys, hleft, Registry.store]

theorem armed_apply (request : Int) : (e.apply m).target.requests.find? request =
    if request = e.request then e.rearmed (m.target.requests.find? request)
    else m.target.requests.find? request := by
  cases hleft : e.left with
  | none =>
      obtain ⟨group, happly⟩ := h.apply_of_none hleft
      simp [happly, ScriptedTarget.find?_clear h.connected, rearmed, destroys, hleft]
  | some bp =>
      have hkept : e.destroys = false := by rw [destroys, hleft]; rfl
      rw [apply_of_some hleft]
      cases hdisarms : e.disarms with
      | false => simp [rearmed, hkept, hdisarms]
      | true =>
          have hset := ScriptedTarget.find?_setArmed h.connected e.request false request
          refine hset.trans ?_
          split
          next heq => simp [rearmed, hkept, hdisarms, heq]
          next => rfl

/-- The request of another breakpoint stays active if it is. -/
theorem contains_apply {request : Int} (hne : request ≠ e.request) :
    (e.apply m).target.requests.contains request = m.target.requests.contains request := by
  rw [Table.contains, h.armed_apply, if_neg hne, Table.contains]

theorem cleared_apply : (e.apply m).target.cleared = m.target.cleared ++
    if e.destroys ∧ m.target.requests.contains e.request then [e.request] else [] := by
  cases hleft : e.left with
  | none =>
      obtain ⟨group, happly⟩ := h.apply_of_none hleft
      simp [happly, ScriptedTarget.cleared_clear h.connected, destroys, hleft]
  | some bp =>
      have hset : (Target.setArmed m.target e.request false).2.cleared = m.target.cleared :=
        (ScriptedTarget.setArmed_fields m.target e.request false).2.2
      rw [apply_of_some hleft]
      cases e.disarms with
      | false => simp [destroys, hleft]
      | true => simp [destroys, hleft, hset]

theorem bare_apply : (e.apply m).target.bare = m.target.bare := by
  cases hleft : e.left with
  | none =>
      obtain ⟨group, happly⟩ := h.apply_of_none hleft
      rw [happly]
      exact ScriptedTarget.bare_clear m.target e.request
  | some bp =>
      rw [apply_of_some hleft]
      cases e.disarms with
      | false => rfl
      | true => exact ScriptedTarget.bare_setArmed m.target e.request false

/-- The effect on another breakpoint still belongs to that one. -/
theorem next {e' : HitEffect} (h' : e'.Fits m) (hne : e'.id ≠ e.id)
    (hgrouped : Registry.Grouped (fun _ => False) (e.apply m)) : e'.Fits (e.apply m) where
  grouped := hgrouped
  connected := (ScriptedTarget.disconnected_eq_of_bare h.bare_apply).trans h.connected
  owned := by
    rw [Registry.requestOf?, e.find?_apply, if_neg hne]
    exact h'.owned

end Fits

end HitEffect

namespace Registry

variable {τ : Type} [Target τ] {m : Registry τ}

/-- A hit that goes to a breakpoint is decided by it and has its effect. -/
theorem onHit_eq {request : Int} {id : Nat} {bp : Breakpoint}
    (hrouted : m.requests.find? request = some id) (hfind : m.find? id = some bp)
    (state : TargetState) :
    let result := bp.hit id request (m.groups.chainEnabled bp.group) state
    m.onHit request state = (result.1, result.2.1, result.2.2.apply m) := by
  intro result
  have hafter := bp.evaluate_snd_eq (m.groups.chainEnabled bp.group) state
  simp only [result, onHit, hrouted, hfind, Breakpoint.hit, HitEffect.apply]
  split
  next =>
    -- what was stored for a breakpoint on its way out does not matter
    rw [destroy_store hfind]
    · rw [hafter]
    · rw [hafter]
  next => rfl

end Registry

end Breakpoints
