import Breakpoints.Proofs.GroupTree.Chain
import Breakpoints.Proofs.Registry.Expiry
import Breakpoints.Proofs.Registry.Upkeep

/-!
Switching a group off and on.  A switched-off group silences the breakpoints in it and below it, and
touches nobody else; switched on again, it leaves no trace.
-/

namespace Breakpoints.Registry

variable {τ : Type} {m m' : Registry τ}

theorem effectivelyEnabled_of_find? {id : Nat} {bp : Breakpoint} (hfind : m.find? id = some bp) :
    m.effectivelyEnabled id = .ok (bp.enabled && m.groups.chainEnabled bp.group) := by
  rw [effectivelyEnabled, hfind]

theorem setGroupEnabled_of_ok {group : Nat} {enabled : Bool} {groups : GroupTree}
    (h : m.groups.setEnabled group enabled = .ok groups) :
    m.setGroupEnabled group enabled = (.ok (), { m with groups }) := by
  simp only [setGroupEnabled, changeGroups, h]

/-- Nothing happens to a group that is not there. -/
theorem setGroupEnabled_of_not_contains {group : Nat} (h : m.groups.contains group = false)
    (enabled : Bool) :
    m.setGroupEnabled group enabled = (.error (.unknownGroup group), m) := by
  simp only [setGroupEnabled, changeGroups, GroupTree.setEnabled, h, Bool.false_eq_true, ↓reduceIte]

/-- Only groups change, and of these only the flag of one. -/
structure Flagged (group : Nat) (m m' : Registry τ) : Prop where
  rest : m' = { m with groups := m'.groups }
  shape : GroupTree.SameShape m.groups m'.groups
  flags : ∀ other, other ≠ group → m'.groups.isEnabled other = m.groups.isEnabled other
  members : ∀ other id, m'.groups.isMember other id = m.groups.isMember other id

theorem setGroupEnabled_flagged (m : Registry τ) (group : Nat) (enabled : Bool) :
    Flagged group m (m.setGroupEnabled group enabled).2 := by
  cases hthere : m.groups.contains group with
  | false =>
      rw [setGroupEnabled_of_not_contains hthere]
      exact ⟨rfl, .refl m.groups, fun _ _ => rfl, fun _ _ => rfl⟩
  | true =>
      obtain ⟨groups, hset⟩ := GroupTree.exists_setEnabled hthere enabled
      rw [setGroupEnabled_of_ok hset]
      refine ⟨rfl, .setEnabled hset, fun other hne => ?_, fun other id => ?_⟩
      · rw [GroupTree.isEnabled_setEnabled hset, if_neg hne]
      · exact GroupTree.isMember_congr (GroupTree.membersOf?_setEnabled hset other) id

section Off

variable (hm : m.groups.Shaped) {group id : Nat} {bp : Breakpoint}

include hm

/-- A group that is switched off takes every group below it out of force. -/
theorem chainEnabled_off (hbelow : bp.group ∈ m.groups.subtree group) :
    (m.setGroupEnabled group false).2.groups.chainEnabled bp.group = false := by
  cases hthere : m.groups.contains group with
  | false =>
      rw [GroupTree.subtree_of_not_contains hthere] at hbelow
      contradiction
  | true =>
      obtain ⟨groups, hset⟩ := GroupTree.exists_setEnabled hthere false
      rw [setGroupEnabled_of_ok hset]
      exact GroupTree.chainEnabled_of_disabled hm hset hbelow

/-- A group that is switched means nothing to the breakpoints elsewhere. -/
theorem effectivelyEnabled_elsewhere (hfind : m.find? id = some bp)
    (helsewhere : bp.group ∉ m.groups.subtree group) (enabled : Bool) :
    (m.setGroupEnabled group enabled).2.effectivelyEnabled id = m.effectivelyEnabled id := by
  cases hthere : m.groups.contains group with
  | false => rw [setGroupEnabled_of_not_contains hthere]
  | true =>
      obtain ⟨groups, hset⟩ := GroupTree.exists_setEnabled hthere enabled
      have hchain := GroupTree.chainEnabled_of_not_mem hm hset helsewhere
      have hfind' : (m.setGroupEnabled group enabled).2.find? id = some bp := by
        rw [setGroupEnabled_of_ok hset]
        exact hfind
      rw [effectivelyEnabled_of_find? hfind', effectivelyEnabled_of_find? hfind,
        setGroupEnabled_of_ok hset, hchain]

end Off

/-- Switching an enabled group off and on again changes nothing at all. -/
theorem setGroupEnabled_back {group : Nat} (henabled : m.groups.isEnabled group = true) :
    ((m.setGroupEnabled group false).2.setGroupEnabled group true).2 = m := by
  have hthere : m.groups.contains group = true := GroupTree.contains_of_isEnabled henabled
  obtain ⟨groups, hset⟩ := GroupTree.exists_setEnabled hthere false
  have hback : groups.setEnabled group true = .ok m.groups :=
    henabled ▸ GroupTree.setEnabled_back hset
  rw [setGroupEnabled_of_ok hset, setGroupEnabled_of_ok (m := { m with groups }) hback]

variable [Target τ]

/-- Whatever has happened before: once a group is switched off, every breakpoint in it or below it
is not effectively enabled, and a hit of it passes, checks no condition, runs no monitor and leaves
everything as it was.  Every other breakpoint is effectively enabled or not as it was before.
Switching sets the flag of the one group and changes nothing else, neither a breakpoint nor the
target, and it is undone by switching the group on again if it was on before. -/
theorem run_switched (start : τ) (kit : Kit) (settings : Settings) (moves : List (Move τ))
    (group : Nat) :
    let m := (create start kit settings).run moves
    let off := (m.setGroupEnabled group false).2
    (∀ id bp, m.find? id = some bp → bp.group ∈ m.groups.subtree group →
      off.effectivelyEnabled id = .ok false ∧
        ∀ request state, (off.onHit request state).1.breakpoint = some id →
          (off.onHit request state).1.decision = .proceed ∧ (off.onHit request state).2.1 = [] ∧
            (off.onHit request state).2.2 = off) ∧
    (∀ id bp, m.find? id = some bp → bp.group ∉ m.groups.subtree group →
      off.effectivelyEnabled id = m.effectivelyEnabled id) ∧
    Flagged group m off ∧
    (m.groups.isEnabled group = true → (off.setGroupEnabled group true).2 = m) := by
  intro m off
  have hm : m.groups.Shaped := run_shaped .initial moves
  have hflagged : Flagged group m off := setGroupEnabled_flagged m group false
  have hfound : ∀ id, off.find? id = m.find? id := by
    intro id
    rw [hflagged.rest]
    rfl
  refine ⟨fun id bp hfind hbelow => ?_, fun id bp hfind helsewhere => ?_, hflagged, ?_⟩
  · have hchain : off.groups.chainEnabled bp.group = false := chainEnabled_off hm hbelow
    have hfind' : off.find? id = some bp := (hfound id).trans hfind
    constructor
    · rw [effectivelyEnabled_of_find? hfind', hchain, Bool.and_false]
    · intro request state hrouted
      apply onHit_of_not_inForce hrouted
      intro found hsame
      rw [hfind', Option.some.injEq] at hsame
      rw [← hsame, Breakpoint.inForce, hchain, Bool.and_false]
  · exact effectivelyEnabled_elsewhere hm hfind helsewhere false
  · exact setGroupEnabled_back

/-- A group is switched off above the group of one breakpoint: its hit passes, while the other
breakpoint, which is in the root, is as it was. -/
theorem run_switched_nested :
    let m := (create ScriptedTarget.initial .standard .standard).run
      [.createGroup "io" GroupTree.root, .createGroup "net" 1, .createSpec .uncaughtException 2,
        .createSpec .uncaughtException GroupTree.root]
    let off := (m.setGroupEnabled 1 false).2
    off.effectivelyEnabled 1 = .ok false ∧ (off.onHit 1 .unknown).1.decision = .proceed ∧
      off.effectivelyEnabled 2 = .ok true ∧ (off.setGroupEnabled 1 true).2 = m := by
  intro m off
  obtain ⟨hbelow, helsewhere, -, hback⟩ :=
    run_switched ScriptedTarget.initial .standard .standard
      [.createGroup "io" GroupTree.root, .createGroup "net" 1, .createSpec .uncaughtException 2,
        .createSpec .uncaughtException GroupTree.root] 1
  have hsilent := hbelow 1 _ rfl (by decide)
  have hother : off.effectivelyEnabled 2 = m.effectivelyEnabled 2 :=
    helsewhere 2 _ rfl (by decide)
  exact ⟨hsilent.1, (hsilent.2 1 .unknown rfl).1, hother.trans rfl, hback (by decide)⟩

end Breakpoints.Registry
