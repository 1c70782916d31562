import Breakpoints.Proofs.Registry.Mirror

/-!
Expired breakpoints.  Only a reset brings an expired breakpoint back: until then its hits pass
without any effect, and the request that it may be bound to is disarmed.  An id whose breakpoint is
gone stays without one.
-/

namespace Breakpoints

/-- The moves that bring an expired breakpoint back. -/
def Move.Resets {τ : Type} (id : Nat) (move : Move τ) : Prop :=
  move = .reset id ∨ move = .resetAll

/-- Everything may happen but a reset of one breakpoint, except that the target changes by itself in
certain ways only. -/
def Scope.withoutReset {τ : Type} (drifts : (τ → τ) → Prop) (id : Nat) : Scope τ :=
  ⟨drifts, True, fun other => other ≠ id⟩

theorem Move.within_withoutReset {τ : Type} {drifts : (τ → τ) → Prop} {id : Nat} {move : Move τ}
    (hdrift : ∀ change, move = .outside change → drifts change) (hreset : ¬ move.Resets id) :
    move.Within (.withoutReset drifts id) := by
  refine within_of hdrift (fun _ => trivial) fun other hother => ?_
  rintro rfl
  exact hreset hother

namespace Registry

variable {τ : Type} {m m' : Registry τ}

/-- Putting a breakpoint back as it was changes nothing. -/
theorem store_self {id : Nat} {bp : Breakpoint} (hfind : m.find? id = some bp) :
    m.store bp id = m := by
  have hsame : m.breakpoints.insert id bp = m.breakpoints := by
    apply Table.ext_find?
    intro j
    rw [Table.find?_insert]
    split
    next heq => rw [heq]; exact hfind.symm
    next => rfl
  rw [store, hsame]

/-- The breakpoint with an id has expired or is gone, and no other will get the id. -/
structure Spent (id : Nat) (m : Registry τ) : Prop where
  given : id < m.nextId
  expired : ∀ bp, m.find? id = some bp → bp.expired = true

namespace Spent

variable {id : Nat}

/-- One breakpoint changes; if it is the one that expired, it must not be brought back. -/
theorem of_insert (h : Spent id m) {j : Nat} {bp : Breakpoint} (hnext : m.nextId ≤ m'.nextId)
    (hinsert : m'.breakpoints = m.breakpoints.insert j bp) (hexpired : j = id → bp.expired = true) :
    Spent id m' where
  given := Nat.lt_of_lt_of_le h.given hnext
  expired found hfound := by
    rw [find?_of_insert hinsert] at hfound
    split at hfound
    next heq =>
      cases hfound
      exact hexpired heq.symm
    next => exact h.expired found hfound

/-- A breakpoint changes in something else. -/
theorem update (h : Spent id m) {j : Nat} {bp bp' : Breakpoint} (hfind : m.find? j = some bp)
    (hnext : m.nextId ≤ m'.nextId) (hinsert : m'.breakpoints = m.breakpoints.insert j bp')
    (hsame : bp'.expired = bp.expired) : Spent id m' := by
  refine h.of_insert hnext hinsert ?_
  rintro rfl
  exact hsame.trans (h.expired bp hfind)

theorem keep (h : Spent id m) (hnext : m.nextId ≤ m'.nextId)
    (hfind : ∀ bp, m'.find? id = some bp → m.find? id = some bp) : Spent id m' where
  given := Nat.lt_of_lt_of_le h.given hnext
  expired bp hbp := h.expired bp (hfind bp hbp)

end Spent

variable [Target τ] {scope : Scope τ}

/-- A hit of a breakpoint that is not in force checks nothing, runs nothing and leaves everything as
it was. -/
theorem onHit_of_not_inForce {request : Int} {state : TargetState} {id : Nat}
    (hrouted : (m.onHit request state).1.breakpoint = some id)
    (hforce : ∀ bp, m.find? id = some bp → bp.inForce (m.groups.chainEnabled bp.group) = false) :
    (m.onHit request state).1.decision = .proceed ∧ (m.onHit request state).2.1 = [] ∧
      (m.onHit request state).2.2 = m := by
  obtain ⟨hrequest, bp, hfind⟩ := (onHit_breakpoint_eq_some_iff m request state id).mp hrouted
  simp [Registry.onHit, hrequest, hfind, Breakpoint.evaluate_of_not_inForce (hforce bp hfind),
    HitOutcome.passed, store_self hfind]

theorem Change.nextId_le (h : Change scope m m') : m.nextId ≤ m'.nextId := by
  cases h
  case skipId => exact Nat.le_succ _
  case insert => exact Nat.le_succ _
  case destroy id => exact Nat.le_of_eq (destroy_fields m id).2.2.symm
  case removeGroup groups _ =>
    exact Nat.le_of_eq (foldl_destroy_fields { m with groups } _).2.2.symm
  all_goals exact Nat.le_refl _

/-- An id without a breakpoint is given out once at most, so a breakpoint that is gone does not come
back. -/
theorem Change.find?_eq_none (h : Change scope m m') {id : Nat} (hgiven : id < m.nextId)
    (hnone : m.find? id = none) : m'.find? id = none := by
  have hother : ∀ {j : Nat} {bp : Breakpoint}, m.find? j = some bp → id ≠ j := by
    rintro j bp hfind rfl
    rw [hnone] at hfind
    contradiction
  have hstored : ∀ {found : Registry τ} {j : Nat} {bp : Breakpoint},
      found.breakpoints = m.breakpoints.insert j bp → id ≠ j → found.find? id = none := by
    intro found j bp hinsert hne
    rw [find?_of_insert hinsert, if_neg hne, hnone]
  cases h with
  | drift _ => exact hnone
  | refuse _ => exact hnone
  | skipId => exact hnone
  | insert _ _ => exact hstored rfl (Nat.ne_of_lt hgiven)
  | edit hfind => exact hstored rfl (hother hfind)
  | restyle hfind _ => exact hstored rfl (hother hfind)
  | toggle hfind _ => exact hstored rfl (hother hfind)
  | switch hfind _ _ => exact hstored rfl (hother hfind)
  | bind hfind _ _ => exact hstored rfl (hother hfind)
  | release hfind _ => exact hstored rfl (hother hfind)
  | forget _ hfind _ => exact hstored rfl (hother hfind)
  | expire hfind _ => exact hstored rfl (hother hfind)
  | restart _ hfind _ => exact hstored rfl (hother hfind)
  | rearm _ hfind _ _ => exact hstored rfl (hother hfind)
  | destroy j => rw [find?_destroy, hnone, ite_self]
  | regroup _ => exact hnone
  | transfer hfind _ => exact hstored rfl (hother hfind)
  | removeGroup _ =>
      rw [find?_foldl_destroy]
      split
      next => rfl
      next => exact hnone

theorem Leads.nextId_le (h : Leads scope m m') : m.nextId ≤ m'.nextId := by
  induction h with
  | refl => exact Nat.le_refl _
  | tail _ hchange ih => exact Nat.le_trans ih hchange.nextId_le

theorem Leads.find?_eq_none (h : Leads scope m m') {id : Nat} (hgiven : id < m.nextId)
    (hnone : m.find? id = none) : m'.find? id = none := by
  induction h with
  | refl => exact hnone
  | tail hbefore hchange ih =>
      have hstill : id < _ := Nat.lt_of_lt_of_le hgiven (Leads.nextId_le hbefore)
      exact hchange.find?_eq_none hstill ih

namespace Spent

variable {id : Nat}

/-- No elementary change but a reset brings an expired breakpoint back. -/
theorem change {drifts : (τ → τ) → Prop} (h : Spent id m)
    (hchange : Change (.withoutReset drifts id) m m') : Spent id m' := by
  have hnext := hchange.nextId_le
  cases hchange with
  | drift _ => exact h.keep hnext fun _ hfind => hfind
  | refuse _ => exact h.keep hnext fun _ hfind => hfind
  | skipId => exact h.keep hnext fun _ hfind => hfind
  | insert _ _ =>
      exact h.of_insert hnext rfl fun heq => absurd heq.symm (Nat.ne_of_lt h.given)
  | edit hfind => exact h.update hfind hnext rfl rfl
  | restyle hfind _ => exact h.update hfind hnext rfl rfl
  | toggle hfind _ => exact h.update hfind hnext rfl rfl
  | switch hfind _ _ => exact h.update hfind hnext rfl rfl
  | bind hfind _ _ => exact h.update hfind hnext rfl rfl
  | release hfind _ => exact h.update hfind hnext rfl rfl
  | forget _ hfind _ => exact h.update hfind hnext rfl rfl
  | expire _ _ => exact h.of_insert hnext rfl fun _ => rfl
  | restart hother _ _ => exact h.of_insert hnext rfl fun heq => absurd heq hother
  | rearm hother _ _ _ => exact h.of_insert hnext rfl fun heq => absurd heq hother
  | destroy j =>
      refine h.keep hnext fun bp hfind => ?_
      rw [find?_destroy] at hfind
      split at hfind
      · contradiction
      · exact hfind
  | regroup _ => exact h.keep hnext fun _ hfind => hfind
  | transfer hfind _ => exact h.update hfind hnext rfl rfl
  | removeGroup _ =>
      refine h.keep hnext fun bp hfind => ?_
      rw [find?_foldl_destroy] at hfind
      split at hfind
      · contradiction
      · exact hfind

theorem leads {drifts : (τ → τ) → Prop} (h : Spent id m)
    (hleads : Leads (.withoutReset drifts id) m m') : Spent id m' := by
  induction hleads with
  | refl => exact h
  | tail _ hchange ih => exact ih.change hchange

/-- A hit of an expired breakpoint checks nothing, runs nothing and leaves everything as it was. -/
theorem onHit (h : Spent id m) {request : Int} {state : TargetState}
    (hrouted : (m.onHit request state).1.breakpoint = some id) :
    (m.onHit request state).1.decision = .proceed ∧ (m.onHit request state).2.1 = [] ∧
      (m.onHit request state).2.2 = m := by
  refine onHit_of_not_inForce hrouted fun bp hfind => ?_
  simp [Breakpoint.inForce, h.expired bp hfind]

end Spent

/-- A hit goes to a breakpoint that had not expired before and has expired with it. -/
def ExpiresOn (m : Registry τ) (request : Int) (state : TargetState) (id : Nat) : Prop :=
  (∃ bp, m.find? id = some bp ∧ bp.expired = false) ∧
    (m.onHit request state).1.breakpoint = some id ∧ (m.onHit request state).1.expired = true

namespace ExpiresOn

variable {request : Int} {state : TargetState} {id : Nat}

/-- What the hit leaves of the breakpoint: nothing if it was to be deleted. -/
theorem find?_onHit (h : m.ExpiresOn request state id) :
    ∃ bp stopCount, m.find? id = some bp ∧
      (m.onHit request state).2.2.find? id =
        if bp.deleteOnExpire then none else some { bp with stopCount, expired := true } := by
  obtain ⟨⟨bp, hfind, hlive⟩, hrouted, hexpired⟩ := h
  obtain ⟨hrequest, -⟩ := (onHit_breakpoint_eq_some_iff m request state id).mp hrouted
  obtain ⟨stopCount, hafter⟩ := bp.evaluate_snd (m.groups.chainEnabled bp.group) state
  have hnow : (bp.evaluate (m.groups.chainEnabled bp.group) state).1.expiredNow = true := by
    simp only [Registry.onHit, hrequest, hfind] at hexpired
    by_contra hnot
    rw [hafter, if_neg hnot, hlive] at hexpired
    contradiction
  refine ⟨bp, stopCount, hfind, ?_⟩
  rw [hnow, if_pos rfl] at hafter
  simp only [Registry.onHit, hrequest, hfind, hafter, hnow, Bool.true_and, ↓reduceIte]
  cases bp.deleteOnExpire with
  | false => exact Table.find?_insert_self _ _ _
  | true => rw [if_pos rfl, if_pos rfl, find?_destroy, if_pos rfl]

theorem given (h : m.ExpiresOn request state id) (hm : m.Orderly) :
    id < (m.onHit request state).2.2.nextId := by
  obtain ⟨bp, hfind, -⟩ := h.1
  have hleads : Leads (.drifting fun _ => True) m (m.onHit request state).2.2 :=
    onHit_leads m request state
  exact Nat.lt_of_lt_of_le (hm id bp hfind).2.1 hleads.nextId_le

theorem spent (h : m.ExpiresOn request state id) (hm : m.Orderly) :
    Spent id (m.onHit request state).2.2 where
  given := h.given hm
  expired found hfound := by
    obtain ⟨bp, stopCount, -, hafter⟩ := h.find?_onHit
    rw [hafter] at hfound
    split at hfound
    · contradiction
    · cases hfound
      rfl

end ExpiresOn

section Run

variable {request : Int} {state : TargetState} {id : Nat} {after : List (Move τ)}

/-- A breakpoint that expires with a hit stays expired, or goes. -/
theorem ExpiresOn.spent_run (h : m.ExpiresOn request state id) (hkit : m.kit.Faithful)
    (hm : m.Orderly) (hafter : ∀ move ∈ after, ¬ move.Resets id) :
    Spent id ((m.step (.hit request state)).run after) := by
  have hhit : Leads (.drifting fun _ => True) m (m.onHit request state).2.2 :=
    onHit_leads m request state
  have hrest : Leads (.withoutReset (fun _ => True) id) (m.onHit request state).2.2
      ((m.onHit request state).2.2.run after) :=
    run_leads (hhit.kit_eq ▸ hkit) (hhit.orderly hm) fun move hmove =>
      Move.within_withoutReset (fun _ _ => trivial) (hafter move hmove)
  exact (h.spent hm).leads hrest

/-- A breakpoint that is deleted with its last hit never comes back. -/
theorem ExpiresOn.gone_run (h : m.ExpiresOn request state id) (hkit : m.kit.Faithful)
    (hm : m.Orderly) {bp : Breakpoint} (hfind : m.find? id = some bp)
    (hdelete : bp.deleteOnExpire = true) (after : List (Move τ)) :
    ((m.step (.hit request state)).run after).find? id = none := by
  obtain ⟨found, stopCount, hfound, hgone⟩ := h.find?_onHit
  rw [hfind] at hfound
  cases hfound
  rw [hdelete, if_pos rfl] at hgone
  have hhit : Leads (.drifting fun _ => True) m (m.onHit request state).2.2 :=
    onHit_leads m request state
  have hrest : Leads (.drifting fun _ => True) (m.onHit request state).2.2
      ((m.onHit request state).2.2.run after) :=
    run_leads (hhit.kit_eq ▸ hkit) (hhit.orderly hm) fun _ _ =>
      Move.within_drifting fun _ _ => trivial
  exact hrest.find?_eq_none (h.given hm) hgone

end Run

/-- Every state that can be reached keeps its kit and its order. -/
theorem run_orderly {kit : Kit} (hkit : kit.Faithful) (settings : Settings) (start : τ)
    (moves : List (Move τ)) :
    ((create start kit settings).run moves).kit.Faithful ∧
      ((create start kit settings).run moves).Orderly := by
  have hleads : Leads (.drifting fun _ => True) (create start kit settings)
      ((create start kit settings).run moves) :=
    run_leads hkit (create_orderly start kit settings) fun _ _ =>
      Move.within_drifting fun _ _ => trivial
  exact ⟨hleads.kit_eq ▸ hkit, hleads.orderly (create_orderly start kit settings)⟩

/-- The requests of a scripted target are in step with the breakpoints after every run. -/
theorem Mirror.run {kit : Kit} (hkit : kit.Faithful) (settings : Settings)
    {moves : List (Move ScriptedTarget)}
    (hmoves : ∀ change, .outside change ∈ moves → ScriptedTarget.KeepsRequests change) :
    Mirror ((Registry.create .initial kit settings).run moves) := by
  have hempty : (Registry.create ScriptedTarget.initial kit settings).Orderly :=
    create_orderly _ kit settings
  have hleads : Leads (.scripted True) (Registry.create .initial kit settings)
      ((Registry.create .initial kit settings).run moves) :=
    run_leads hkit hempty fun move hmove => Move.within_of
      (fun change heq => hmoves change (heq ▸ hmove)) (fun _ => trivial) fun _ _ => trivial
  exact (Mirror.create kit settings).leads hempty hleads

/-- Once a breakpoint has expired with a hit, and as long as it is not reset, whatever else happens:
every hit of it passes, checks no condition, runs no monitor and leaves everything as it was.  On a
connected scripted target whose requests are left to the registry, the request that the breakpoint
is bound to is disarmed all the while.  A breakpoint that is to be deleted when it expires is gone
after that hit, and does not come back even with a reset. -/
theorem run_silent {kit : Kit} (hkit : kit.Faithful) (settings : Settings) (request : Int)
    (state : TargetState) (id : Nat) :
    (∀ {τ : Type} [Target τ] (start : τ) (before after : List (Move τ)),
      let m := (create start kit settings).run before
      let now := (m.step (.hit request state)).run after
      m.ExpiresOn request state id →
        ((∀ move ∈ after, ¬ move.Resets id) →
          ∀ next later, (now.onHit next later).1.breakpoint = some id →
            (now.onHit next later).1.decision = .proceed ∧ (now.onHit next later).2.1 = [] ∧
              (now.onHit next later).2.2 = now) ∧
        (∀ bp, m.find? id = some bp → bp.deleteOnExpire = true → now.find? id = none)) ∧
    (∀ before after : List (Move ScriptedTarget),
      let m := (create .initial kit settings).run before
      let now := (m.step (.hit request state)).run after
      (∀ change, .outside change ∈ before ++ after → ScriptedTarget.KeepsRequests change) →
        m.ExpiresOn request state id → (∀ move ∈ after, ¬ move.Resets id) →
          ∀ bp binding, now.find? id = some bp → bp.binding = some binding →
            ∃ armed, now.target.requests.find? binding.request = some armed ∧
              armed.enabled = false) := by
  constructor
  · intro τ _ start before after m now hexpires
    obtain ⟨hkit, hm⟩ := run_orderly hkit settings start before
    exact ⟨fun hafter next later => (hexpires.spent_run hkit hm hafter).onHit,
      fun bp hfind hdelete => hexpires.gone_run hkit hm hfind hdelete after⟩
  · intro before after m now hdrifts hexpires hafter bp binding hfind hbound
    have hmirror : Mirror now := by
      have hrun : now =
          (create .initial kit settings).run (before ++ .hit request state :: after) := by
        rw [run_append, run_cons]
      rw [hrun]
      refine Mirror.run hkit settings fun change hchange => hdrifts change ?_
      simpa using hchange
    obtain ⟨armed, harmed, hreflects⟩ := hmirror.reflects id bp binding hfind hbound
    obtain ⟨hkit, hm⟩ := run_orderly hkit settings ScriptedTarget.initial before
    have hspent : bp.expired = true := (hexpires.spent_run hkit hm hafter).expired bp hfind
    refine ⟨armed, harmed, ?_⟩
    rw [hreflects.enabled_eq, hspent, Bool.not_true, Bool.and_false]

/-- A breakpoint that expires with its first hit loses its request with the death of the target and
is bound once more: the new request is disarmed, and a hit of it passes. -/
theorem run_silent_rebound :
    let m := (create ScriptedTarget.initial .standard .standard).run
      [.createSpec .uncaughtException GroupTree.root, .setExpireCount 1 1]
    let now := (m.step (.hit 1 .unknown)).run [.event .vmDeath, .event .vmStart]
    (now.onHit 2 .unknown).1.decision = .proceed ∧
      ∃ armed, now.target.requests.find? 2 = some armed ∧ armed.enabled = false := by
  intro m now
  have h := run_silent Kit.standard_faithful .standard 1 .unknown 1
  have hexpires : m.ExpiresOn 1 .unknown 1 := ⟨⟨_, rfl, rfl⟩, rfl, rfl⟩
  have hafter : ∀ move ∈ ([.event .vmDeath, .event .vmStart] : List (Move ScriptedTarget)),
      ¬ move.Resets 1 := by simp [Move.Resets]
  constructor
  · exact ((h.1 ScriptedTarget.initial _ _ hexpires).1 hafter 2 .unknown rfl).1
  · exact h.2 _ _ (by simp) hexpires hafter _ _ rfl rfl

end Registry

end Breakpoints
