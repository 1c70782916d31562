import Breakpoints.Kit
import Breakpoints.Proofs.Filter

/-!
What a registry may expect of the constructors in its kit.
-/

namespace Breakpoints

/-- A constructor gives the breakpoint the id and the group that it was asked for.  Only a registry
binds, counts, expires and destroys, so what a constructor makes is new. -/
structure Constructor.Faithful (constructor : Constructor) : Prop where
  id_eq : ∀ id spec group settings, (constructor id spec group settings).id = id
  group_eq : ∀ id spec group settings, (constructor id spec group settings).group = group
  binding_eq : ∀ id spec group settings, (constructor id spec group settings).binding = none
  stopCount_eq : ∀ id spec group settings, (constructor id spec group settings).stopCount = 0
  expired_eq : ∀ id spec group settings, (constructor id spec group settings).expired = false
  destroyed_eq : ∀ id spec group settings, (constructor id spec group settings).destroyed = false

/-- A constructor keeps the specification that it was asked for, and sets no conditions, monitors
and properties of its own.  Filters are only ever read from texts. -/
structure Constructor.Plain (constructor : Constructor) : Prop where
  spec_eq : ∀ id spec group settings, (constructor id spec group settings).spec = spec
  conditions_eq : ∀ id spec group settings, (constructor id spec group settings).conditions = []
  monitors_eq : ∀ id spec group settings, (constructor id spec group settings).monitors = []
  properties_eq : ∀ id spec group settings, (constructor id spec group settings).properties = ∅
  classFilters_kept : ∀ id spec group settings,
    FilterList.Kept (constructor id spec group settings).classFilters
  threadFilters_kept : ∀ id spec group settings,
    FilterList.Kept (constructor id spec group settings).threadFilters

/-- A breakpoint that was just made with an id for a group. -/
structure Breakpoint.Fresh (bp : Breakpoint) (id group : Nat) : Prop where
  id_eq : bp.id = id
  group_eq : bp.group = group
  binding_eq : bp.binding = none
  stopCount_eq : bp.stopCount = 0
  expired_eq : bp.expired = false
  destroyed_eq : bp.destroyed = false

/-- A breakpoint as a kit made it, as far as its specification is concerned; its filters may have
been read from texts since. -/
def Breakpoint.MadeBy (bp : Breakpoint) (kit : Kit) : Prop :=
  ∃ id spec group settings made, kit.make id spec group settings = .ok made ∧
    bp.spec = made.spec ∧ FilterList.Renewed made.classFilters bp.classFilters ∧
    FilterList.Renewed made.threadFilters bp.threadFilters

namespace Kit

/-- All constructors of the kit are faithful. -/
def Faithful (kit : Kit) : Prop :=
  ∀ kind constructor, kit.constructors kind = some constructor → constructor.Faithful

/-- All constructors of the kit are plain. -/
def Plain (kit : Kit) : Prop :=
  ∀ kind constructor, kit.constructors kind = some constructor → constructor.Plain

/-- No constructor of the kit sets filters but from texts. -/
def ReadsFilters (kit : Kit) : Prop :=
  ∀ kind constructor, kit.constructors kind = some constructor → ∀ id spec group settings,
    FilterList.Kept (constructor id spec group settings).classFilters ∧
      FilterList.Kept (constructor id spec group settings).threadFilters

theorem Plain.readsFilters {kit : Kit} (h : kit.Plain) : kit.ReadsFilters := by
  intro kind constructor hfound id spec group settings
  have hplain := h kind constructor hfound
  exact ⟨hplain.classFilters_kept id spec group settings,
    hplain.threadFilters_kept id spec group settings⟩

theorem construct_plain : Constructor.Plain construct := by
  constructor <;> intros <;> first | rfl | exact .none

theorem constructTrace_plain : Constructor.Plain constructTrace := by
  constructor <;> intros <;> first | rfl | exact .none

theorem standard_plain : standard.Plain := by
  intro kind constructor hmade
  simp only [standard, Option.some.injEq] at hmade
  subst hmade
  split
  · exact constructTrace_plain
  · exact construct_plain

theorem construct_faithful : Constructor.Faithful construct := by
  constructor <;> intros <;> rfl

theorem constructTrace_faithful : Constructor.Faithful constructTrace := by
  constructor <;> intros <;> rfl

theorem standard_faithful : standard.Faithful := by
  intro kind constructor hmade
  simp only [standard, Option.some.injEq] at hmade
  subst hmade
  split
  · exact constructTrace_faithful
  · exact construct_faithful

/-- A kind with a constructor can be made. -/
theorem exists_make {kit : Kit} {spec : Spec} (hregistered : kit.isRegistered spec.kind = true)
    (id group : Nat) (settings : Settings) :
    ∃ made, kit.make id spec group settings = .ok made := by
  obtain ⟨constructor, hfound⟩ := Option.isSome_iff_exists.mp hregistered
  exact ⟨constructor id spec group settings, by rw [make, hfound]⟩

theorem make_of_unregistered {kit : Kit} {spec : Spec}
    (hnone : kit.isRegistered spec.kind = false) (id group : Nat) (settings : Settings) :
    kit.make id spec group settings = .error (.unsupportedKind spec.kind) := by
  rw [isRegistered, Option.isSome_eq_false_iff, Option.isNone_iff_eq_none] at hnone
  rw [make, hnone]

theorem make_fresh {kit : Kit} (hkit : kit.Faithful) {id group : Nat} {spec : Spec}
    {settings : Settings} {bp : Breakpoint} (hmake : kit.make id spec group settings = .ok bp) :
    bp.Fresh id group := by
  rw [make] at hmake
  split at hmake
  next => contradiction
  next constructor hfound =>
    cases hmake
    have hfaithful := hkit spec.kind constructor hfound
    exact ⟨hfaithful.id_eq _ _ _ _, hfaithful.group_eq _ _ _ _, hfaithful.binding_eq _ _ _ _,
      hfaithful.stopCount_eq _ _ _ _, hfaithful.expired_eq _ _ _ _, hfaithful.destroyed_eq _ _ _ _⟩

end Kit

/-- The filters of a breakpoint were read from texts, whether they were set early or late. -/
theorem Breakpoint.MadeBy.kept {bp : Breakpoint} {kit : Kit} (h : bp.MadeBy kit)
    (hkit : kit.ReadsFilters) :
    FilterList.Kept bp.classFilters ∧ FilterList.Kept bp.threadFilters := by
  obtain ⟨id, spec, group, settings, made, hmake, -, hclass, hthread⟩ := h
  rw [Kit.make] at hmake
  split at hmake
  next => contradiction
  next constructor hfound =>
    cases hmake
    obtain ⟨hclassKept, hthreadKept⟩ := hkit spec.kind constructor hfound id spec group settings
    exact ⟨hclassKept.renewed hclass, hthreadKept.renewed hthread⟩

end Breakpoints
