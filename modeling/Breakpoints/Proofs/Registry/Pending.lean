import Breakpoints.Proofs.Attempt
import Breakpoints.Proofs.Registry.Creation
import Breakpoints.Proofs.Target.Connected
import Breakpoints.Proofs.Target.Loading

/-!
Attempts to bind all breakpoints that are not bound yet.  With a connected target only what the
breakpoints mean decides: those that mean something get bound, those that are ambiguous are listed,
and the others wait.  Binding one does not change what the others mean, so another round finds
nothing more to do.
-/

namespace Breakpoints.Registry

variable {τ : Type}

/-- The live breakpoint with an id, if it is not bound. -/
def unbound? (m : Registry τ) (id : Nat) : Option Breakpoint :=
  (m.find? id).filter fun bp => !bp.resolved && !bp.destroyed

theorem unbound?_eq_some_iff {m : Registry τ} {id : Nat} {bp : Breakpoint} :
    m.unbound? id = some bp ↔
      m.find? id = some bp ∧ bp.resolved = false ∧ bp.destroyed = false := by
  simp only [unbound?, Option.filter_eq_some_iff, Bool.and_eq_true, Bool.not_eq_true']

theorem isUnbound_eq (m : Registry τ) (id : Nat) : m.isUnbound id = (m.unbound? id).isSome := by
  rw [isUnbound, unbound?, Option.isSome_filter]
  cases m.find? id with
  | none => rfl
  | some bp => rfl

theorem ids_ascending (m : Registry τ) : m.ids.Pairwise (· < ·) := by
  rw [ids, Table.keys, List.pairwise_map]
  exact m.breakpoints.ascending.imp fun h => Nat.compare_eq_lt.mp h

/-- A breakpoint that was bound, and how. -/
structure NewBinding where
  id : Nat
  /-- The breakpoint as it was before. -/
  breakpoint : Breakpoint
  anchor : Anchor
  request : Int

namespace NewBinding

/-- The breakpoint afterwards. -/
def bound (new : NewBinding) : Breakpoint :=
  { new.breakpoint with binding := some ⟨new.request, new.anchor, false⟩ }

/-- The request that was armed for it. -/
def armed (new : NewBinding) : RequestSpec × Int :=
  (new.breakpoint.requestFor new.anchor, new.request)

end NewBinding

/-- Puts a bound breakpoint in the place of the unbound one, and enters its request. -/
def enter (m : Registry τ) (new : NewBinding) : Registry τ :=
  { m.store new.bound new.id with requests := m.requests.insert new.request new.id }

section Enter

variable {m : Registry τ} {news : List NewBinding}

theorem foldl_enter_with_target (m : Registry τ) (news : List NewBinding) (target : τ) :
    news.foldl enter { m with target } = { news.foldl enter m with target } := by
  induction news generalizing m with
  | nil => rfl
  | cons new news ih => exact ih (m.enter new)

/-- The breakpoints that were bound are there with their bindings, and the others as before. -/
theorem find?_foldl_enter (h : (news.map (·.id)).Nodup) :
    (∀ new ∈ news, (news.foldl enter m).find? new.id = some new.bound) ∧
      ∀ id, id ∉ news.map (·.id) → (news.foldl enter m).find? id = m.find? id := by
  induction news generalizing m with
  | nil => exact ⟨by simp, fun _ _ => rfl⟩
  | cons new news ih =>
      rw [List.map_cons, List.nodup_cons] at h
      obtain ⟨hlater, helse⟩ := ih (m := m.enter new) h.2
      rw [List.foldl_cons]
      constructor
      · rw [List.forall_mem_cons]
        exact ⟨(helse new.id h.1).trans (Table.find?_insert_self _ _ _), hlater⟩
      · intro id hid
        rw [List.map_cons, List.mem_cons, not_or] at hid
        exact (helse id hid.2).trans (Table.find?_insert_of_ne _ _ hid.1)

theorem ids_foldl_enter (hids : (news.map (·.id)).Nodup)
    (hthere : ∀ new ∈ news, (m.find? new.id).isSome = true) :
    (news.foldl enter m).ids = m.ids := by
  obtain ⟨hbound, helse⟩ := find?_foldl_enter (m := m) hids
  refine Table.keys_congr fun id => ?_
  by_cases hid : id ∈ news.map (·.id)
  · obtain ⟨new, hnew, rfl⟩ := List.mem_map.mp hid
    exact (congrArg Option.isSome (hbound new hnew)).trans (hthere new hnew).symm
  · exact congrArg Option.isSome (helse id hid)

end Enter

variable [Target τ]

section Meaning

variable {m m' : Registry τ} {id : Nat} {bp : Breakpoint} {anchor : Anchor} {e : Failure}

/-- The unbound breakpoint with an id and what it means, if it means something. -/
def discovery? (m : Registry τ) (id : Nat) : Option (Breakpoint × Anchor) :=
  (m.unbound? id).bind fun bp =>
    match bp.spec.resolve m.target with
    | .ok (some anchor) => some (bp, anchor)
    | _ => none

/-- The failure of the unbound breakpoint with an id, if its search fails. -/
def refusal? (m : Registry τ) (id : Nat) : Option (Nat × Failure) :=
  (m.unbound? id).bind fun bp =>
    match bp.spec.resolve m.target with
    | .error e => some (id, e)
    | .ok _ => none

theorem discovery?_eq_some_iff : m.discovery? id = some (bp, anchor) ↔
    m.unbound? id = some bp ∧ bp.spec.resolve m.target = .ok (some anchor) := by
  rw [discovery?, Option.bind_eq_some_iff]
  constructor
  · rintro ⟨found, hunbound, hmeaning⟩
    split at hmeaning
    next place hplace =>
      cases hmeaning
      exact ⟨hunbound, hplace⟩
    next => contradiction
  · rintro ⟨hunbound, hmeaning⟩
    refine ⟨bp, hunbound, ?_⟩
    rw [hmeaning]

theorem refusal?_eq_some_iff {failure : Nat × Failure} : m.refusal? id = some failure ↔
    ∃ bp e, m.unbound? id = some bp ∧ bp.spec.resolve m.target = .error e ∧ failure = (id, e) := by
  rw [refusal?, Option.bind_eq_some_iff]
  constructor
  · rintro ⟨found, hunbound, hmeaning⟩
    split at hmeaning
    next e herror =>
      cases hmeaning
      exact ⟨found, e, hunbound, herror, rfl⟩
    next => contradiction
  · rintro ⟨bp, e, hunbound, hmeaning, rfl⟩
    refine ⟨bp, hunbound, ?_⟩
    rw [hmeaning]

theorem refusal?_of_discovery? {found : Breakpoint × Anchor} (h : m.discovery? id = some found) :
    m.refusal? id = none := by
  obtain ⟨hunbound, hmeaning⟩ := discovery?_eq_some_iff.mp h
  rw [refusal?, hunbound, Option.bind_some, hmeaning]

theorem meaning_congr (hfind : m'.find? id = m.find? id)
    (hview : Target.SameView m.target m'.target) :
    m'.discovery? id = m.discovery? id ∧ m'.refusal? id = m.refusal? id := by
  have hunbound : m'.unbound? id = m.unbound? id := by rw [unbound?, unbound?, hfind]
  constructor
  · simp only [discovery?, hunbound, hview.resolve]
  · simp only [refusal?, hunbound, hview.resolve]

end Meaning

section Each

variable {m : Registry τ} {id : Nat}

/-- What comes of an unbound breakpoint is decided by what it means, and then by the target. -/
theorem resolve_of_unbound {bp : Breakpoint} (h : m.unbound? id = some bp) :
    m.resolve id = match bp.spec.resolve m.target with
      | .error e => (.error e, m)
      | .ok none => (.ok .pending, m)
      | .ok (some anchor) =>
        match Target.arm m.target (bp.requestFor anchor) with
        | (.error e, target) => (.error (.target e), { m with target })
        | (.ok request, target) =>
          (.ok (.resolved request), { m.enter ⟨id, bp, anchor, request⟩ with target }) := by
  obtain ⟨hfind, hopen, hlive⟩ := unbound?_eq_some_iff.mp h
  have hguard : ¬ bp.destroyed = true ∧ ¬ bp.resolved = true := by simp [hlive, hopen]
  rw [resolve, hfind]
  dsimp only
  rw [if_neg hguard.1, if_neg hguard.2]
  rfl

/-- A breakpoint that means nothing stays as it is, and is listed if its search fails. -/
theorem resolveEach_cons_of_none (h : m.discovery? id = none) (ids : List Nat) :
    m.resolveEach (id :: ids) =
      ((m.refusal? id).toList ++ (m.resolveEach ids).1, (m.resolveEach ids).2) := by
  rw [resolveEach, isUnbound_eq]
  cases hunbound : m.unbound? id with
  | none => simp [refusal?, hunbound]
  | some bp =>
      rw [Option.isSome_some, if_pos rfl, resolve_of_unbound hunbound, refusal?, hunbound,
        Option.bind_some]
      cases hmeaning : bp.spec.resolve m.target with
      | error e => rfl
      | ok found =>
          cases found with
          | none => rfl
          | some anchor =>
              rw [discovery?_eq_some_iff.mpr ⟨hunbound, hmeaning⟩] at h
              contradiction

/-- A breakpoint that means something is bound when the target arms its request. -/
theorem resolveEach_cons_of_some (new : NewBinding) {target : τ}
    (h : m.discovery? new.id = some (new.breakpoint, new.anchor))
    (harm : Target.arm m.target (new.breakpoint.requestFor new.anchor) = (.ok new.request, target))
    (ids : List Nat) :
    m.resolveEach (new.id :: ids) = { m.enter new with target }.resolveEach ids := by
  obtain ⟨hunbound, hmeaning⟩ := discovery?_eq_some_iff.mp h
  have hresolve : m.resolve new.id =
      (.ok (.resolved new.request), { m.enter new with target }) := by
    rw [resolve_of_unbound hunbound, hmeaning]
    dsimp only
    rw [harm]
  rw [resolveEach, isUnbound_eq, hunbound, Option.isSome_some, if_pos rfl, hresolve]

/-- Where nothing means anything, nothing changes. -/
theorem resolveEach_of_none {ids : List Nat} (h : ∀ id ∈ ids, m.discovery? id = none) :
    m.resolveEach ids = (ids.filterMap m.refusal?, m) := by
  induction ids with
  | nil => rfl
  | cons id ids ih =>
      rw [List.forall_mem_cons] at h
      rw [resolveEach_cons_of_none h.1, ih h.2, toList_append_filterMap]

end Each

section Run

/-- Binding one breakpoint does not change what another means. -/
theorem meaning_enter {m : Registry τ} {new : NewBinding} {target : τ} {id : Nat}
    (hview : Target.SameView m.target target) (hid : id ≠ new.id) :
    let after := { m.enter new with target }
    after.discovery? id = m.discovery? id ∧ after.refusal? id = m.refusal? id :=
  meaning_congr (Table.find?_insert_of_ne m.breakpoints new.bound hid) hview

/-- What a round of attempts binds: the breakpoints that mean something, one after another. -/
structure Round (m : Registry τ) (ids : List Nat) (news : List NewBinding) (target : τ) :
    Prop where
  ids_eq : news.map (·.id) = ids.filter fun id => (m.discovery? id).isSome
  found : ∀ new ∈ news, m.discovery? new.id = some (new.breakpoint, new.anchor)
  arms : Target.Arms m.target (news.map (·.armed)) target
  view : Target.SameView m.target target

/-- One more breakpoint is bound before a round. -/
theorem Round.cons {m : Registry τ} {new : NewBinding} {ids : List Nat} {news : List NewBinding}
    {target last : τ} (hdiscovery : m.discovery? new.id = some (new.breakpoint, new.anchor))
    (harm : Target.arm m.target (new.breakpoint.requestFor new.anchor) = (.ok new.request, target))
    (hview : Target.SameView m.target target) (hid : new.id ∉ ids)
    (h : Round { m.enter new with target } ids news last) :
    Round m (new.id :: ids) (new :: news) last := by
  have hsame : ∀ id ∈ ids, { m.enter new with target }.discovery? id = m.discovery? id := by
    intro id hmem
    refine (meaning_enter hview ?_).1
    rintro rfl
    exact hid hmem
  refine ⟨?_, ?_, .cons harm h.arms, hview.trans h.view⟩
  · rw [List.map_cons, h.ids_eq, List.filter_cons_of_pos (by simp [hdiscovery])]
    exact congrArg _ (List.filter_congr fun id hmem => by rw [hsame id hmem])
  · rw [List.forall_mem_cons]
    refine ⟨hdiscovery, fun later hlater => ?_⟩
    have hmem : later.id ∈ ids := by
      have hin : later.id ∈ news.map (·.id) := List.mem_map_of_mem hlater
      rw [h.ids_eq] at hin
      exact (List.mem_filter.mp hin).1
    rw [← hsame later.id hmem, h.found later hlater]

/-- With a connected target, a round of attempts binds the breakpoints that mean something and lists
those whose search fails. -/
theorem resolveEach_eq {m : Registry τ} (hconnected : Target.Connected m.target) {ids : List Nat}
    (hids : ids.Nodup) :
    ∃ news target, Round m ids news target ∧
      m.resolveEach ids = (ids.filterMap m.refusal?, { news.foldl enter m with target }) := by
  induction ids generalizing m with
  | nil => exact ⟨[], m.target, ⟨rfl, by simp, .nil m.target, .refl m.target⟩, rfl⟩
  | cons id ids ih =>
      obtain ⟨hid, hids⟩ := List.nodup_cons.mp hids
      cases hdiscovery : m.discovery? id with
      | none =>
          obtain ⟨news, target, hround, hrest⟩ := ih hconnected hids
          refine ⟨news, target, { hround with ids_eq := ?_ }, ?_⟩
          · rw [hround.ids_eq, List.filter_cons_of_neg (by simp [hdiscovery])]
          · rw [resolveEach_cons_of_none hdiscovery, hrest, toList_append_filterMap]
      | some found =>
          obtain ⟨request, target, harm, hview, hstill⟩ :=
            hconnected.arm (found.1.requestFor found.2)
          let new : NewBinding := ⟨id, found.1, found.2, request⟩
          let after := { m.enter new with target }
          have hafter : Target.Connected after.target := hstill
          obtain ⟨news, last, hround, hrest⟩ := ih hafter hids
          refine ⟨new :: news, last, hround.cons hdiscovery harm hview hid, ?_⟩
          have hrefused : ids.filterMap after.refusal? = ids.filterMap m.refusal? := by
            refine List.filterMap_congr fun other hother => (meaning_enter hview ?_).2
            rintro rfl
            exact hid hother
          have hfold : news.foldl enter after = { (new :: news).foldl enter m with target } :=
            foldl_enter_with_target (m.enter new) news target
          rw [resolveEach_cons_of_some new hdiscovery harm, hrest, hrefused, hfold,
            List.filterMap_cons, refusal?_of_discovery? hdiscovery]

namespace Round

variable {m : Registry τ} {news : List NewBinding} {target : τ} (h : Round m m.ids news target)

include h

theorem ascending : (news.map (·.id)).Pairwise (· < ·) := by
  rw [h.ids_eq]
  exact m.ids_ascending.filter _

theorem nodup : (news.map (·.id)).Nodup :=
  h.ascending.imp Nat.ne_of_lt

theorem meant {new : NewBinding} (hnew : new ∈ news) : m.find? new.id = some new.breakpoint ∧
    new.breakpoint.destroyed = false ∧ new.breakpoint.resolved = false ∧
    new.breakpoint.spec.resolve m.target = .ok (some new.anchor) := by
  obtain ⟨hunbound, hmeaning⟩ := discovery?_eq_some_iff.mp (h.found new hnew)
  obtain ⟨hfind, hopen, hlive⟩ := unbound?_eq_some_iff.mp hunbound
  exact ⟨hfind, hlive, hopen, hmeaning⟩

theorem discovery?_of_not_mem {id : Nat} (hid : id ∉ news.map (·.id)) :
    m.discovery? id = none := by
  by_contra hsome
  obtain ⟨⟨bp, anchor⟩, hdiscovery⟩ := Option.ne_none_iff_exists'.mp hsome
  have hfind := (unbound?_eq_some_iff.mp (discovery?_eq_some_iff.mp hdiscovery).1).1
  rw [h.ids_eq, List.mem_filter] at hid
  refine hid ⟨Table.mem_keys_iff.mpr (Table.contains_eq_true_iff.mpr ⟨bp, hfind⟩), ?_⟩
  rw [hdiscovery]
  rfl

/-- After the round nothing is left to be bound, and the same searches fail. -/
theorem settled (id : Nat) :
    let after := { news.foldl enter m with target }
    after.discovery? id = none ∧ after.refusal? id = m.refusal? id := by
  intro after
  obtain ⟨hbound, helse⟩ := find?_foldl_enter (m := m) h.nodup
  by_cases hid : id ∈ news.map (·.id)
  · obtain ⟨new, hnew, rfl⟩ := List.mem_map.mp hid
    have hfind : after.find? new.id = some new.bound := hbound new hnew
    have hunbound : after.unbound? new.id = none := by
      rw [unbound?, hfind]
      rfl
    rw [discovery?, refusal?, hunbound, refusal?_of_discovery? (h.found new hnew)]
    exact ⟨rfl, rfl⟩
  · have hsame : after.discovery? id = m.discovery? id ∧ after.refusal? id = m.refusal? id :=
      meaning_congr (helse id hid) h.view
    exact ⟨hsame.1.trans (h.discovery?_of_not_mem hid), hsame.2⟩

theorem refusals_eq :
    let after := { news.foldl enter m with target }
    after.ids.filterMap after.refusal? = m.ids.filterMap m.refusal? := by
  intro after
  have hids : after.ids = m.ids :=
    ids_foldl_enter h.nodup fun _ hnew => Option.isSome_of_eq_some (h.meant hnew).1
  rw [hids]
  exact List.filterMap_congr fun id _ => (h.settled id).2

/-- A breakpoint that was bound before stays as it is. -/
theorem find?_of_resolved {id : Nat} {bp : Breakpoint} (hfind : m.find? id = some bp)
    (hbound : bp.resolved = true) : (news.foldl enter m).find? id = some bp := by
  rw [← hfind]
  refine (find?_foldl_enter h.nodup).2 id fun hmem => ?_
  obtain ⟨new, hnew, rfl⟩ := List.mem_map.mp hmem
  obtain ⟨hfind', -, hopen, -⟩ := h.meant hnew
  rw [hfind', Option.some.injEq] at hfind
  rw [hfind, hbound] at hopen
  contradiction

end Round

end Run

/-- A breakpoint that has failed is live and unbound, and its search fails. -/
theorem mem_refusals_iff {m : Registry τ} {id : Nat} {e : Failure} :
    (id, e) ∈ m.ids.filterMap m.refusal? ↔
      ∃ bp, m.find? id = some bp ∧ bp.destroyed = false ∧ bp.resolved = false ∧
        bp.spec.resolve m.target = .error e := by
  rw [List.mem_filterMap]
  constructor
  · rintro ⟨other, -, hrefusal⟩
    obtain ⟨bp, e', hunbound, hmeaning, heq⟩ := refusal?_eq_some_iff.mp hrefusal
    cases heq
    obtain ⟨hfind, hopen, hlive⟩ := unbound?_eq_some_iff.mp hunbound
    exact ⟨bp, hfind, hlive, hopen, hmeaning⟩
  · rintro ⟨bp, hfind, hlive, hopen, hmeaning⟩
    refine ⟨id, ?_, ?_⟩
    · exact Table.mem_keys_iff.mpr (Table.contains_eq_true_iff.mpr ⟨bp, hfind⟩)
    · exact refusal?_eq_some_iff.mpr
        ⟨bp, e, unbound?_eq_some_iff.mpr ⟨hfind, hopen, hlive⟩, hmeaning, rfl⟩

theorem refusals_ascending (m : Registry τ) :
    (m.ids.filterMap m.refusal?).Pairwise fun a b => a.1 < b.1 := by
  refine m.ids_ascending.filterMap _ ?_
  intro id id' hlt failure hfailure failure' hfailure'
  obtain ⟨-, e, -, -, rfl⟩ := refusal?_eq_some_iff.mp hfailure
  obtain ⟨-, e', -, -, rfl⟩ := refusal?_eq_some_iff.mp hfailure'
  exact hlt

/-- A round of attempts is complete, and a second one does nothing.  For every registry with a
connected target, each live breakpoint is bound afterwards, or means nothing yet, or its search
fails; the failures listed are those of the last kind, in the order of the ids.  The round binds the
live breakpoints that were not bound and mean something, in the order of the ids, with one request
for each, and changes nothing else; a breakpoint that was bound stays as it is.  Another round gives
the same failures and leaves the registry and the target as they are.  Classes that are prepared,
threads that start or end, and the start of the target cause such a round. -/
theorem resolveAll_completes (m : Registry τ) (hconnected : Target.Connected m.target) :
    let failures := m.resolveAll.1
    let after := m.resolveAll.2
    (∀ id bp, after.find? id = some bp → bp.destroyed = false →
      bp.resolved = true ∨ bp.resolved = false ∧ bp.spec.resolve after.target = .ok none ∨
        bp.resolved = false ∧ ∃ e, bp.spec.resolve after.target = .error e) ∧
    (failures.Pairwise fun a b => a.1 < b.1) ∧
    (∀ id e, (id, e) ∈ failures ↔
      ∃ bp, after.find? id = some bp ∧ bp.destroyed = false ∧ bp.resolved = false ∧
        bp.spec.resolve after.target = .error e) ∧
    (∀ id bp, m.find? id = some bp → bp.resolved = true → after.find? id = some bp) ∧
    (∃ news : List NewBinding,
      (news.Pairwise fun a b => a.id < b.id) ∧
      (∀ new ∈ news, m.find? new.id = some new.breakpoint ∧ new.breakpoint.destroyed = false ∧
        new.breakpoint.resolved = false ∧
        new.breakpoint.spec.resolve m.target = .ok (some new.anchor)) ∧
      Target.Arms m.target (news.map (·.armed)) after.target ∧
      Target.SameView m.target after.target ∧
      after = { news.foldl enter m with target := after.target }) ∧
    after.resolveAll = (failures, after) ∧
    (∀ event, (event = .vmStart ∨ (∃ loaded, event = .classPrepare loaded) ∨
        (∃ thread name, event = .threadStart thread name) ∨
        ∃ thread name, event = .threadDeath thread name) →
      m.onStructuralChange event = m.resolveAll) := by
  intro failures after
  obtain ⟨news, target, hround, hresult⟩ :=
    resolveEach_eq hconnected m.breakpoints.keys_nodup
  have hafter : after = { news.foldl enter m with target } := congrArg (·.2) hresult
  have hfailures : failures = m.ids.filterMap m.refusal? := congrArg (·.1) hresult
  have htarget : after.target = target := by rw [hafter]
  have hsettled : ∀ id, after.discovery? id = none := by
    rw [hafter]
    exact fun id => (hround.settled id).1
  have hrefused : after.ids.filterMap after.refusal? = failures := by
    rw [hafter, hfailures]
    exact hround.refusals_eq
  refine ⟨?_, ?_, ?_, ?_, ?_, ?_, ?_⟩
  · intro id bp hfind hlive
    cases hopen : bp.resolved with
    | true => exact .inl rfl
    | false =>
        have hunbound := unbound?_eq_some_iff.mpr ⟨hfind, hopen, hlive⟩
        cases hmeaning : bp.spec.resolve after.target with
        | error e => exact .inr (.inr ⟨rfl, e, rfl⟩)
        | ok found =>
            cases found with
            | none => exact .inr (.inl ⟨rfl, rfl⟩)
            | some anchor =>
                have hdiscovery := discovery?_eq_some_iff.mpr ⟨hunbound, hmeaning⟩
                rw [hsettled id] at hdiscovery
                contradiction
  · rw [hfailures]
    exact m.refusals_ascending
  · intro id e
    rw [← hrefused]
    exact mem_refusals_iff
  · intro id bp hfind hbound
    rw [hafter]
    exact hround.find?_of_resolved hfind hbound
  · refine ⟨news, List.pairwise_map.mp hround.ascending, fun new hnew => hround.meant hnew, ?_⟩
    rw [htarget]
    exact ⟨hround.arms, hround.view, hafter⟩
  · rw [resolveAll, resolveEach_of_none fun id _ => hsettled id, hrefused]
  · rintro event (rfl | ⟨loaded, rfl⟩ | ⟨thread, name, rfl⟩ | ⟨thread, name, rfl⟩)
    · rfl
    · rfl
    · rfl
    · rfl

/-- Of three new breakpoints one is bound, one is ambiguous and one waits for its class; another
round lists the ambiguous one again and does nothing. -/
theorem resolveAll_completes_waiting :
    let m := (create ScriptedTarget.initial .standard
      { Settings.standard with resolveOnCreate := false }).run
      [.outside fun t => (t.define ⟨"A", "A.java", [.method "f" [], .method "f" ["int"]]⟩).2,
        .createSpec .uncaughtException GroupTree.root,
        .createSpec (.method ⟨"A", "f", .any⟩) GroupTree.root,
        .createSpec (.method ⟨"B", "g", .any⟩) GroupTree.root]
    let failures := [(2, Failure.ambiguousOverload "A" "f" 2)]
    m.resolveAll.1 = failures ∧ m.resolveAll.2.resolveAll = (failures, m.resolveAll.2) ∧
      m.onStructuralChange .vmStart = m.resolveAll := by
  intro m failures
  have hfailures : m.resolveAll.1 = failures := by decide +kernel
  have hconnected : Target.Connected m.target :=
    ScriptedTarget.connected_iff.mpr (by decide +kernel)
  obtain ⟨-, -, -, -, -, hagain, hevents⟩ := resolveAll_completes m hconnected
  rw [hfailures] at hagain
  exact ⟨hfailures, hagain, hevents .vmStart (.inl rfl)⟩

end Breakpoints.Registry
