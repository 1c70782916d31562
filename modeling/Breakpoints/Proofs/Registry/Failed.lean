import Breakpoints.Proofs.Registry.Run
import Breakpoints.Proofs.Table
import Breakpoints.Target.Scripted

/-!
Operations on one breakpoint that fail.  An operation that checks before it changes anything leaves
everything as it was.  Enabling and resetting change the breakpoint first and turn to the target
then, so what they have changed by then stays when the target refuses.
-/

namespace Breakpoints.Registry

variable {τ : Type} {m m' : Registry τ} {id : Nat} {e : Failure}

theorem update_failed {f : Breakpoint → Except Failure Breakpoint}
    (h : m.update id f = (.error e, m')) : m' = m := by
  rw [update] at h
  split at h
  · cases h
    rfl
  split at h
  · cases h
    rfl
  split at h
  · cases h
    rfl
  · cases h

theorem moveBreakpoint_failed {group : Nat} (h : m.moveBreakpoint id group = (.error e, m')) :
    m' = m := by
  rw [moveBreakpoint] at h
  split at h
  · cases h
    rfl
  split at h
  · cases h
    rfl
  split at h
  · cases h
    rfl
  · cases h

variable [Target τ]

/-- A breakpoint is bound only once its request is armed. -/
theorem resolve_failed (h : m.resolve id = (.error e, m')) : ∃ target, m' = { m with target } := by
  rw [resolve] at h
  split at h
  · cases h
    exact ⟨m.target, rfl⟩
  split at h
  · cases h
    exact ⟨m.target, rfl⟩
  split at h
  · cases h
  split at h
  · cases h
    exact ⟨m.target, rfl⟩
  · cases h
  split at h
  next target _ =>
    cases h
    exact ⟨target, rfl⟩
  next => cases h

/-- The old request goes before the new one comes, so without a new one the breakpoint is left
unbound. -/
theorem refresh_failed {bp : Breakpoint} {old : Binding}
    (h : m.refresh bp id old = (.error e, m')) :
    ∃ target, m' = { m.store { bp with binding := none } id with
      target, requests := m.requests.erase old.request } := by
  simp only [refresh] at h
  split at h
  next target _ =>
    cases h
    exact ⟨target, rfl⟩
  next => cases h

section Live

variable {bp : Breakpoint} (hfind : m.find? id = some bp) (hlive : bp.destroyed = false)

include hfind hlive

theorem setEnabled_failed {enabled : Bool} (h : m.setEnabled id enabled = (.error e, m')) :
    ∃ binding target, bp.binding = some binding ∧
      m' = if enabled && binding.stale then
          { m.store { bp with enabled, binding := none } id with
            target, requests := m.requests.erase binding.request }
        else { m.store { bp with enabled } id with target } := by
  have hguard : ¬ bp.destroyed = true := by rw [hlive]; exact Bool.false_ne_true
  simp only [setEnabled, hfind, if_neg hguard] at h
  split at h
  · cases h
  next binding hbound =>
    split at h
    next hstale =>
      obtain ⟨target, rfl⟩ := refresh_failed h
      refine ⟨binding, target, hbound, ?_⟩
      rw [if_pos hstale]
      simp only [store, Table.insert_insert]
    next hfresh =>
      split at h
      next target _ =>
        cases h
        refine ⟨binding, target, hbound, ?_⟩
        rw [if_neg hfresh]
      next => cases h

theorem reset_failed (h : m.reset id = (.error e, m')) :
    ∃ target, m' = { m.store bp.reset id with target } := by
  have hguard : ¬ bp.destroyed = true := by rw [hlive]; exact Bool.false_ne_true
  simp only [reset, hfind, if_neg hguard] at h
  split at h
  · cases h
  split at h
  · split at h
    next target _ =>
      cases h
      exact ⟨target, rfl⟩
    next => cases h
  · cases h

end Live

/-- What a failed operation on a live breakpoint leaves.  Policy, filters and group are refused
before anything changes, and so is a binding, though the target may have moved on.  Enabling has set
the own flag by the time the target refuses; where a stale request was to be replaced, the
breakpoint is unbound and the old request has left the table.  Resetting has set the count to zero
and taken the mark of expiry away, and has touched nothing else. -/
theorem failed_spares {bp : Breakpoint} (hfind : m.find? id = some bp)
    (hlive : bp.destroyed = false) (e : Failure) (m' : Registry τ) :
    (∀ policy, m.setPolicy id policy = (.error e, m') → m' = m) ∧
    (∀ text, m.setClassFilters id text = (.error e, m') → m' = m) ∧
    (∀ text, m.setThreadFilters id text = (.error e, m') → m' = m) ∧
    (∀ group, m.moveBreakpoint id group = (.error e, m') → m' = m) ∧
    (m.resolve id = (.error e, m') → ∃ target, m' = { m with target }) ∧
    (∀ enabled, m.setEnabled id enabled = (.error e, m') →
      ∃ binding target, bp.binding = some binding ∧
        m' = if enabled && binding.stale then
            { m.store { bp with enabled, binding := none } id with
              target, requests := m.requests.erase binding.request }
          else { m.store { bp with enabled } id with target }) ∧
    (m.reset id = (.error e, m') →
      ∃ target, m' = { m.store { bp with stopCount := 0, expired := false } id with target }) := by
  refine ⟨fun _ => update_failed, fun _ => update_failed, fun _ => update_failed,
    fun _ => moveBreakpoint_failed, resolve_failed,
    fun _ => setEnabled_failed hfind hlive, fun h => reset_failed hfind hlive h⟩

/-- A breakpoint was to be enabled with a new policy, but the target has gone away: it is left
enabled and unbound.  That it cannot move to a group that there is not changes nothing. -/
theorem failed_spares_restyled :
    let m := (create ScriptedTarget.initial .standard .standard).run
      [.createSpec .uncaughtException GroupTree.root, .setEnabled 1 false, .setPolicy 1 .nothing,
        .outside .disconnect]
    ∃ bp, m.find? 1 = some bp ∧ bp.destroyed = false ∧ (m.moveBreakpoint 1 9).2 = m ∧
      ∃ target, (m.setEnabled 1 true).2 =
        { m.store { bp with enabled := true, binding := none } 1 with
          target, requests := m.requests.erase 1 } := by
  intro m
  have h := failed_spares (show m.find? 1 = some _ from rfl) rfl
  refine ⟨_, rfl, rfl, (h (.unknownGroup 9) _).2.2.2.1 9 rfl, ?_⟩
  obtain ⟨binding, target, hbound, hleft⟩ := (h (.target .disconnected) _).2.2.2.2.2.1 true rfl
  cases hbound
  exact ⟨target, hleft⟩

/-- Not every failure leaves the breakpoint as it was.  On a target that has gone away, disabling
sets the own flag, enabling with a new policy loses the binding and the entry in the table, and
resetting forgets that the breakpoint had expired. -/
theorem failed_changes :
    let start := create ScriptedTarget.initial .standard .standard
    let bound := start.run [.createSpec .uncaughtException GroupTree.root, .outside .disconnect]
    let restyled := start.run
      [.createSpec .uncaughtException GroupTree.root, .setEnabled 1 false, .setPolicy 1 .nothing,
        .outside .disconnect]
    let expired := start.run
      [.createSpec .uncaughtException GroupTree.root, .setExpireCount 1 1, .hit 1 .unknown,
        .outside .disconnect]
    ((bound.setEnabled 1 false).1 = .error (.target .disconnected) ∧
      (bound.find? 1).map (·.enabled) = some true ∧
      ((bound.setEnabled 1 false).2.find? 1).map (·.enabled) = some false) ∧
    ((restyled.setEnabled 1 true).1 = .error (.target .disconnected) ∧
      (restyled.find? 1).map (·.resolved) = some true ∧
      restyled.requests.find? 1 = some 1 ∧
      ((restyled.setEnabled 1 true).2.find? 1).map (·.resolved) = some false ∧
      (restyled.setEnabled 1 true).2.requests.find? 1 = none) ∧
    ((expired.reset 1).1 = .error (.target .disconnected) ∧
      (expired.find? 1).map (·.expired) = some true ∧
      ((expired.reset 1).2.find? 1).map (·.expired) = some false) :=
  ⟨⟨rfl, rfl, rfl⟩, ⟨rfl, rfl, rfl, rfl, rfl⟩, ⟨rfl, rfl, rfl⟩⟩

end Breakpoints.Registry
