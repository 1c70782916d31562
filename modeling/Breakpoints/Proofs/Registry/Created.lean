import Breakpoints.Proofs.Registry.Pending
import Breakpoints.Proofs.Registry.Refused

/-!
Breakpoints that are created.  A creation fails before the breakpoint has come to its group, or when
it is to be bound and turns out to be ambiguous; in both cases nothing is left of it but the id that
it has used up.  Any other creation leaves the breakpoint in its group, bound or pending.
-/

namespace Breakpoints.Registry

variable {τ : Type}

/-- A new breakpoint comes to its group. -/
def place (m : Registry τ) (bp : Breakpoint) (group : Nat) : Registry τ :=
  { m.store bp m.nextId with
    nextId := m.nextId + 1
    groups := m.groups.modify group fun g => { g with members := g.members.add m.nextId } }

section Place

variable {m : Registry τ} {spec : Spec} {group : Nat} {bp : Breakpoint}

theorem find?_place (m : Registry τ) (bp : Breakpoint) (group id : Nat) :
    (m.place bp group).find? id = if id = m.nextId then some bp else m.find? id :=
  Table.find?_insert m.breakpoints m.nextId bp id

theorem moveMember_place (hgroup : m.groups.contains group = true) (bp : Breakpoint) :
    m.groups.moveMember m.nextId none group = .ok (m.place bp group).groups := by
  rw [GroupTree.moveMember, if_pos hgroup]
  rfl

theorem insert_of_contains (hmake : m.kit.make m.nextId spec group m.settings = .ok bp)
    (hgroup : m.groups.contains group = true) :
    m.insert spec group .ok = (.ok m.nextId, m.place bp group) := by
  simp only [insert, hmake, moveMember_place hgroup bp]
  rfl

theorem insert_of_not_contains (hmake : m.kit.make m.nextId spec group m.settings = .ok bp)
    (hgroup : m.groups.contains group = false) :
    m.insert spec group .ok =
      (.error (.unknownGroup group), { m with nextId := m.nextId + 1 }) := by
  simp [insert, hmake, GroupTree.moveMember, hgroup]

theorem insert_of_unregistered (hkind : m.kit.isRegistered spec.kind = false) (group : Nat) :
    m.insert spec group .ok =
      (.error (.unsupportedKind spec.kind), { m with nextId := m.nextId + 1 }) := by
  simp only [insert, Kit.make_of_unregistered hkind]

end Place

variable [Target τ]

/-- Why a breakpoint cannot be created: its kind has no constructor, its group is not there, or it
is to be bound at once and its method is ambiguous. -/
inductive Uncreatable (m : Registry τ) (spec : Spec) (group : Nat) : Failure → Prop where
  | unsupported : m.kit.isRegistered spec.kind = false →
      Uncreatable m spec group (.unsupportedKind spec.kind)
  | unplaced : m.kit.isRegistered spec.kind = true → m.groups.contains group = false →
      Uncreatable m spec group (.unknownGroup group)
  | ambiguous {bp : Breakpoint} {className methodName : String} {candidates : Nat} :
      m.kit.make m.nextId spec group m.settings = .ok bp → m.groups.contains group = true →
        m.settings.resolveOnCreate = true →
          bp.spec.resolve m.target = .error (.ambiguousOverload className methodName candidates) →
            Uncreatable m spec group (.ambiguousOverload className methodName candidates)

/-- How a new breakpoint begins: its binding, and the target and the table of requests once it was
tried. -/
inductive Begins (m : Registry τ) (bp : Breakpoint) :
    Option Binding → τ → Table Int Nat → Prop where
  /-- It is not tried. -/
  | deferred : m.settings.resolveOnCreate = false → Begins m bp none m.target m.requests
  /-- It means nothing yet. -/
  | pending : m.settings.resolveOnCreate = true → bp.spec.resolve m.target = .ok none →
      Begins m bp none m.target m.requests
  /-- The target does not arm its request. -/
  | refused {anchor : Anchor} {e : TargetFailure} {target : τ} :
      m.settings.resolveOnCreate = true → bp.spec.resolve m.target = .ok (some anchor) →
        Target.arm m.target (bp.requestFor anchor) = (.error e, target) →
          Begins m bp none target m.requests
  | bound {anchor : Anchor} {request : Int} {target : τ} :
      m.settings.resolveOnCreate = true → bp.spec.resolve m.target = .ok (some anchor) →
        Target.arm m.target (bp.requestFor anchor) = (.ok request, target) →
          Begins m bp (some ⟨request, anchor, false⟩) target (m.requests.insert request m.nextId)

/-- A breakpoint has come to its group, under the next id and as its constructor has made it, and it
is bound or pending.  Nothing else has changed. -/
structure Created (m : Registry τ) (spec : Spec) (group : Nat) (bp : Breakpoint)
    (binding : Option Binding) (m' : Registry τ) : Prop where
  made : m.kit.make m.nextId spec group m.settings = .ok bp
  fresh : bp.Fresh m.nextId group
  begins : Begins m bp binding m'.target m'.requests
  breakpoints : ∀ id, m'.find? id = if id = m.nextId then some { bp with binding } else m.find? id
  isMember_iff : ∀ x, m'.groups.isMember x m.nextId = true ↔ x = group
  groups : m'.groups =
    m.groups.modify group fun g => { g with members := g.members.add m.nextId }
  kit : m'.kit = m.kit
  settings : m'.settings = m.settings
  nextId : m'.nextId = m.nextId + 1

section Create

variable {m : Registry τ} {spec : Spec} {group : Nat} {bp : Breakpoint} {e : Failure}

/-- Whether a breakpoint can be created is known before anything is done. -/
theorem uncreatable_or_creatable (m : Registry τ) (spec : Spec) (group : Nat) :
    (∃ e, m.Uncreatable spec group e) ∨
      ∃ bp, m.kit.make m.nextId spec group m.settings = .ok bp ∧
        m.groups.contains group = true ∧
        (m.settings.resolveOnCreate = true → ∃ found, bp.spec.resolve m.target = .ok found) := by
  cases hkind : m.kit.isRegistered spec.kind with
  | false => exact .inl ⟨_, .unsupported hkind⟩
  | true =>
      cases hgroup : m.groups.contains group with
      | false => exact .inl ⟨_, .unplaced hkind hgroup⟩
      | true =>
          obtain ⟨bp, hmake⟩ := Kit.exists_make hkind m.nextId group m.settings
          by_cases hbinds : m.settings.resolveOnCreate = true
          · cases hmeaning : bp.spec.resolve m.target with
            | error e =>
                obtain ⟨className, methodName, candidates, rfl⟩ := resolve_eq_error hmeaning
                exact .inl ⟨_, .ambiguous hmake hgroup hbinds hmeaning⟩
            | ok found => exact .inr ⟨bp, hmake, rfl, fun _ => ⟨found, hmeaning⟩⟩
          · exact .inr ⟨bp, hmake, rfl, fun h => absurd h hbinds⟩

section Make

variable (hkit : m.kit.Faithful) (hmake : m.kit.make m.nextId spec group m.settings = .ok bp)

include hkit hmake

/-- A breakpoint that was placed is taken back if it is ambiguous, and stays in all other cases. -/
theorem createSpec_of_make (hgroup : m.groups.contains group = true)
    (hbinds : m.settings.resolveOnCreate = true) :
    m.createSpec spec group = match bp.spec.resolve m.target with
      | .error e => (.error e, ((m.place bp group).destroy m.nextId).2)
      | .ok _ => (.ok m.nextId, ((m.place bp group).resolve m.nextId).2) := by
  have hfresh : bp.Fresh m.nextId group := Kit.make_fresh hkit hmake
  have hfind : (m.place bp group).find? m.nextId = some bp := by rw [find?_place, if_pos rfl]
  rw [createSpec, insert_of_contains hmake hgroup]
  exact resolveNew_eq (m := m.place bp group) hbinds hfind hfresh.destroyed_eq hfresh.binding_eq

/-- What a breakpoint that was placed is bound to. -/
theorem resolve_place : ((m.place bp group).resolve m.nextId).2 =
    match bp.spec.resolve m.target with
    | .ok (some anchor) =>
      match Target.arm m.target (bp.requestFor anchor) with
      | (.error _, target) => { m.place bp group with target }
      | (.ok request, target) =>
        { (m.place bp group).store { bp with binding := some ⟨request, anchor, false⟩ }
            m.nextId with
          target
          requests := m.requests.insert request m.nextId }
    | _ => m.place bp group := by
  have hfresh : bp.Fresh m.nextId group := Kit.make_fresh hkit hmake
  have hunbound : (m.place bp group).unbound? m.nextId = some bp := by
    refine unbound?_eq_some_iff.mpr ⟨?_, ?_, hfresh.destroyed_eq⟩
    · rw [find?_place, if_pos rfl]
    · rw [Breakpoint.resolved, hfresh.binding_eq, Option.isSome_none]
  have htarget : (m.place bp group).target = m.target := rfl
  rw [resolve_of_unbound hunbound, htarget]
  cases bp.spec.resolve m.target with
  | error e => rfl
  | ok found =>
      cases found with
      | none => rfl
      | some anchor =>
          dsimp only
          rcases Target.arm m.target (bp.requestFor anchor) with ⟨e | request, target⟩
          · rfl
          · rfl

end Make

section Outcome

variable (hm : m.Orderly) (hgrouped : Grouped (fun _ => False) m) (hkit : m.kit.Faithful)

include hm hgrouped hkit

/-- A breakpoint that cannot be created uses up an id, and nothing else happens. -/
theorem createSpec_of_uncreatable (h : m.Uncreatable spec group e) :
    m.createSpec spec group = (.error e, { m with nextId := m.nextId + 1 }) := by
  cases h with
  | unsupported hkind => rw [createSpec, insert_of_unregistered hkind]
  | unplaced hkind hgroup =>
      obtain ⟨bp, hmake⟩ := Kit.exists_make hkind m.nextId group m.settings
      rw [createSpec, insert_of_not_contains hmake hgroup]
  | @ambiguous bp className methodName candidates hmake hgroup hbinds hmeaning =>
      have hnew : m.groups.isMember group m.nextId = false :=
        hgrouped.not_isMember hm.find?_nextId group
      rw [createSpec_of_make hkit hmake hgroup hbinds, hmeaning]
      exact Prod.ext rfl (destroy_new hm (Kit.make_fresh hkit hmake)
        (moveMember_place hgroup bp) hnew rfl)

/-- What tells a creation from the state before it. -/
theorem Created.of_place (hmake : m.kit.make m.nextId spec group m.settings = .ok bp)
    (hgroup : m.groups.contains group = true) {binding : Option Binding} {target : τ}
    {breakpoints : Table Nat Breakpoint} {requests : Table Int Nat}
    (hbegins : Begins m bp binding target requests)
    (hfind : ∀ id, breakpoints.find? id =
      if id = m.nextId then some { bp with binding } else m.find? id) :
    m.Created spec group bp binding
      { m.place bp group with target, breakpoints, requests } where
  made := hmake
  fresh := Kit.make_fresh hkit hmake
  begins := hbegins
  breakpoints := hfind
  isMember_iff x := by
    rw [GroupTree.isMember_moveMember (moveMember_place hgroup bp),
      hgrouped.not_isMember hm.find?_nextId]
    simp
  groups := rfl
  kit := rfl
  settings := rfl
  nextId := rfl

/-- A breakpoint that can be created comes to its group and begins there. -/
theorem createSpec_of_creatable (hmake : m.kit.make m.nextId spec group m.settings = .ok bp)
    (hgroup : m.groups.contains group = true)
    (hmeans : m.settings.resolveOnCreate = true → ∃ found, bp.spec.resolve m.target = .ok found) :
    ∃ binding m', m.createSpec spec group = (.ok m.nextId, m') ∧
      m.Created spec group bp binding m' := by
  have hunbound : bp.binding = none := (Kit.make_fresh hkit hmake).binding_eq
  have hplaced : ∀ id, (m.place bp group).find? id =
      if id = m.nextId then some { bp with binding := none } else m.find? id := by
    intro id
    rw [find?_place, ← hunbound]
  by_cases hbinds : m.settings.resolveOnCreate = true
  · obtain ⟨found, hmeaning⟩ := hmeans hbinds
    rw [createSpec_of_make hkit hmake hgroup hbinds, resolve_place hkit hmake, hmeaning]
    cases found with
    | none =>
        exact ⟨none, _, rfl, .of_place hm hgrouped hkit hmake hgroup
          (.pending hbinds hmeaning) hplaced⟩
    | some anchor =>
        dsimp only
        cases harm : Target.arm m.target (bp.requestFor anchor) with
        | mk answer target =>
            cases answer with
            | error e =>
                exact ⟨none, _, rfl, .of_place hm hgrouped hkit hmake hgroup
                  (.refused hbinds hmeaning harm) hplaced⟩
            | ok request =>
                refine ⟨some ⟨request, anchor, false⟩, _, rfl, .of_place hm hgrouped hkit hmake
                  hgroup (.bound hbinds hmeaning harm) fun id => ?_⟩
                have hstored := Table.find?_insert (m.place bp group).breakpoints m.nextId
                  { bp with binding := some ⟨request, anchor, false⟩ } id
                have hbefore := hplaced id
                rw [find?] at hbefore
                rw [hbefore] at hstored
                split at hstored
                next h => rw [if_pos h]; exact hstored
                next h => rw [if_neg h]; exact hstored
  · have hinsert : m.createSpec spec group = (.ok m.nextId, m.place bp group) := by
      rw [createSpec, insert_of_contains hmake hgroup]
      exact if_neg hbinds
    exact ⟨none, _, hinsert, .of_place hm hgrouped hkit hmake hgroup
      (.deferred ((Bool.not_eq_true _).mp hbinds)) hplaced⟩

end Outcome

end Create

/-- A creation fails exactly if the text says nothing or the breakpoint cannot be created, and then
with that failure.  The live breakpoints, the groups, the requests and the target are as before; an
id is used up unless the text was at fault.  Any other creation gives the next id, and a breakpoint
that is live under this id and in its group alone, bound if it was tried, means something and the
target armed it, and pending otherwise. -/
theorem run_creates (start : τ) {kit : Kit} (hkit : kit.Faithful) (settings : Settings)
    (moves : List (Move τ)) :
    let m := (create start kit settings).run moves
    (∀ spec group e m', m.createSpec spec group = (.error e, m') →
      m.Uncreatable spec group e ∧ m' = { m with nextId := m.nextId + 1 }) ∧
    (∀ spec group id m', m.createSpec spec group = (.ok id, m') →
      id = m.nextId ∧ (∀ e, ¬ m.Uncreatable spec group e) ∧
        ∃ bp binding, m.Created spec group bp binding m') ∧
    (∀ raw group e m', m.createIn raw group = (.error e, m') →
      (Spec.read raw (Target.currentLocation m.target) = .error e ∧ m' = m) ∨
      (∃ spec, Spec.read raw (Target.currentLocation m.target) = .ok spec ∧
        m.Uncreatable spec group e ∧ m' = { m with nextId := m.nextId + 1 })) ∧
    (∀ raw group id m', m.createIn raw group = (.ok id, m') →
      id = m.nextId ∧ ∃ spec, Spec.read raw (Target.currentLocation m.target) = .ok spec ∧
        (∀ e, ¬ m.Uncreatable spec group e) ∧
        ∃ bp binding, m.Created spec group bp binding m') := by
  intro m
  have hempty : (create start kit settings).Orderly := create_orderly start kit settings
  have hleads : Leads (.drifting fun _ => True) (create start kit settings) m :=
    create_leads start hkit settings fun _ _ => trivial
  have hm : m.Orderly := hleads.orderly hempty
  have hgrouped : Grouped (fun _ => False) m :=
    (Grouped.create start kit settings).leads hempty hleads
  have hkept : m.kit.Faithful := hleads.kit_eq ▸ hkit
  have hfails : ∀ spec group e m', m.createSpec spec group = (.error e, m') →
      m.Uncreatable spec group e ∧ m' = { m with nextId := m.nextId + 1 } := by
    intro spec group e m' h
    rcases m.uncreatable_or_creatable spec group with ⟨e', hnot⟩ | ⟨bp, hmake, hgroup, hmeans⟩
    · rw [createSpec_of_uncreatable hm hgrouped hkept hnot] at h
      cases h
      exact ⟨hnot, rfl⟩
    · obtain ⟨binding, m'', hcreate, -⟩ :=
        createSpec_of_creatable hm hgrouped hkept hmake hgroup hmeans
      rw [hcreate] at h
      cases h
  have hsucceeds : ∀ spec group id m', m.createSpec spec group = (.ok id, m') →
      id = m.nextId ∧ (∀ e, ¬ m.Uncreatable spec group e) ∧
        ∃ bp binding, m.Created spec group bp binding m' := by
    intro spec group id m' h
    have hcan : ∀ e, ¬ m.Uncreatable spec group e := by
      intro e hnot
      rw [createSpec_of_uncreatable hm hgrouped hkept hnot] at h
      cases h
    rcases m.uncreatable_or_creatable spec group with ⟨e, hnot⟩ | ⟨bp, hmake, hgroup, hmeans⟩
    · exact absurd hnot (hcan e)
    · obtain ⟨binding, m'', hcreate, hcreated⟩ :=
        createSpec_of_creatable hm hgrouped hkept hmake hgroup hmeans
      rw [hcreate] at h
      cases h
      exact ⟨rfl, hcan, bp, binding, hcreated⟩
  refine ⟨hfails, hsucceeds, fun raw group e m' h => ?_, fun raw group id m' h => ?_⟩
  · rw [createIn] at h
    cases hread : Spec.read raw (Target.currentLocation m.target) with
    | error e' =>
        rw [hread] at h
        cases h
        exact .inl ⟨rfl, rfl⟩
    | ok spec =>
        rw [hread] at h
        exact .inr ⟨spec, rfl, hfails spec group e m' h⟩
  · rw [createIn] at h
    cases hread : Spec.read raw (Target.currentLocation m.target) with
    | error e =>
        rw [hread] at h
        cases h
    | ok spec =>
        rw [hread] at h
        obtain ⟨hid, hcan, hcreated⟩ := hsucceeds spec group id m' h
        exact ⟨hid, spec, rfl, hcan, hcreated⟩

/-- An ambiguous method and a group that is not there use up an id, a text that needs a current
location does not even do that, and the method with its parameters is created in its group. -/
theorem run_creates_unambiguous :
    let moves : List (Move ScriptedTarget) :=
      [.createGroup "io" GroupTree.root,
        .outside fun t => (t.define ⟨"A", "A.java", [.method "f" [], .method "f" ["int"]]⟩).2]
    let m := (create .initial .standard .standard).run moves
    let either : Spec := .method ⟨"A", "f", .any⟩
    let single : Spec := .method ⟨"A", "f", .exact []⟩
    (m.createSpec either 1).2 = { m with nextId := 2 } ∧
      (m.createSpec single 7).2 = { m with nextId := 2 } ∧ (m.createIn "stop" 1).2 = m ∧
      ∃ bp binding, m.Created single 1 bp binding (m.createSpec single 1).2 := by
  intro moves m either single
  obtain ⟨hfails, hsucceeds, hrefuses, -⟩ :=
    run_creates ScriptedTarget.initial Kit.standard_faithful .standard moves
  have hambiguous : (m.createSpec either 1).1 = .error (.ambiguousOverload "A" "f" 2) := by
    decide +kernel
  have hunplaced : (m.createSpec single 7).1 = .error (.unknownGroup 7) := by decide +kernel
  have hcreated : (m.createSpec single 1).1 = .ok 1 := by decide +kernel
  have hread : Spec.read "stop" (Target.currentLocation m.target) =
      .error .noCurrentLocation := by decide +kernel
  have hnext : { m with nextId := m.nextId + 1 } = { m with nextId := 2 } := by
    rw [show m.nextId = 1 by decide +kernel]
  refine ⟨?_, ?_, ?_, ?_⟩
  · exact (hfails either 1 _ _ (Prod.ext hambiguous rfl)).2.trans hnext
  · exact (hfails single 7 _ _ (Prod.ext hunplaced rfl)).2.trans hnext
  · have hunread : (m.createIn "stop" 1).1 = .error .noCurrentLocation := by
      rw [createIn, hread]
    rcases hrefuses "stop" 1 _ _ (Prod.ext hunread rfl) with ⟨-, hsame⟩ | ⟨spec, hspec, -⟩
    · exact hsame
    · rw [hread] at hspec
      cases hspec
  · exact (hsucceeds single 1 1 _ (Prod.ext hcreated rfl)).2.2

end Breakpoints.Registry
