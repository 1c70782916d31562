import Breakpoints.Proofs.Breakpoint.Evaluation
import Breakpoints.Proofs.GroupTree.Membership
import Breakpoints.Proofs.Kit
import Breakpoints.Proofs.Registry.Run

/-!
What a registry can do.  Every move is a row of elementary changes, so a property that each change
keeps holds after every run.
-/

namespace Breakpoints

/-- What may happen in a run besides the ordinary. -/
structure Scope (τ : Type) where
  /-- How the target may change by itself. -/
  drifts : (τ → τ) → Prop
  /-- Whether the target may die, and its requests with it. -/
  deaths : Prop
  /-- The breakpoints that may be reset. -/
  resets : Nat → Prop

/-- Everything may happen, except that the target changes by itself in certain ways only. -/
def Scope.drifting {τ : Type} (drifts : (τ → τ) → Prop) : Scope τ :=
  ⟨drifts, True, fun _ => True⟩

/-- Whether a scope allows a move. -/
def Move.Within {τ : Type} (scope : Scope τ) : Move τ → Prop
  | .outside change => scope.drifts change
  | .event .vmDeath => scope.deaths
  | .reset id => scope.resets id
  | .resetAll => ∀ id, scope.resets id
  | _ => True

theorem Move.within_of {τ : Type} {scope : Scope τ} {move : Move τ}
    (hdrift : ∀ change, move = .outside change → scope.drifts change)
    (hdeath : move = .event .vmDeath → scope.deaths)
    (hreset : ∀ id, move = .reset id ∨ move = .resetAll → scope.resets id) :
    move.Within scope := by
  cases move with
  | outside change => exact hdrift change rfl
  | event event =>
      cases event with
      | vmDeath => exact hdeath rfl
      | _ => trivial
  | reset id => exact hreset id (.inl rfl)
  | resetAll => exact fun id => hreset id (.inr rfl)
  | _ => trivial

/-- Where everything may happen, only the changes that the target makes by itself matter. -/
theorem Move.within_drifting {τ : Type} {drifts : (τ → τ) → Prop} {move : Move τ}
    (h : ∀ change, move = .outside change → drifts change) : move.Within (.drifting drifts) :=
  within_of h (fun _ => trivial) fun _ _ => trivial

namespace Registry

variable {τ : Type} [Target τ] {scope : Scope τ} {m m' : Registry τ}

/-- The elementary changes. -/
inductive Change (scope : Scope τ) (m : Registry τ) : Registry τ → Prop where
  /-- The target changes by itself. -/
  | drift {change : τ → τ} :
      scope.drifts change → Change scope m { m with target := change m.target }
  /-- The target does not arm a request. -/
  | refuse {spec : RequestSpec} {e : TargetFailure} {target : τ} :
      Target.arm m.target spec = (.error e, target) → Change scope m { m with target }
  /-- An id is used up. -/
  | skipId : Change scope m { m with nextId := m.nextId + 1 }
  /-- A new breakpoint comes to its group. -/
  | insert {group : Nat} {bp : Breakpoint} {groups : GroupTree} :
      bp.Fresh m.nextId group → m.groups.moveMember m.nextId none group = .ok groups →
        bp.MadeBy m.kit → Change scope m { m.store bp m.nextId with nextId := m.nextId + 1, groups }
  /-- Counts and whatever else concerns hits are set; a hit that does not expire is one case. -/
  | edit {id skipCount stopCount expireCount : Nat} {deleteOnExpire : Bool}
      {conditions : List Condition} {monitors : List Monitor} {properties : Table String Json}
      {bp : Breakpoint} :
      m.find? id = some bp →
        Change scope m
          (m.store
            { bp with
              skipCount, stopCount, expireCount, deleteOnExpire, conditions, monitors, properties }
            id)
  /-- Policy and filters are set, which makes the binding stale. -/
  | restyle {id : Nat} {policy : SuspendPolicy} {classFilters threadFilters : Option FilterList}
      {bp : Breakpoint} :
      m.find? id = some bp → bp.enabled = false →
        FilterList.Renewed bp.classFilters classFilters →
          FilterList.Renewed bp.threadFilters threadFilters →
            Change scope m (m.store { bp with policy, classFilters, threadFilters }.markStale id)
  /-- The own flag of an unbound breakpoint is set. -/
  | toggle {id : Nat} {enabled : Bool} {bp : Breakpoint} :
      m.find? id = some bp → bp.binding = none → Change scope m (m.store { bp with enabled } id)
  /-- The own flag of a bound breakpoint is set, and its request follows. -/
  | switch {id : Nat} {enabled : Bool} {bp : Breakpoint} {binding : Binding} :
      m.find? id = some bp → bp.binding = some binding → (enabled && binding.stale) = false →
        Change scope m
          { m.store { bp with enabled } id with
            target := (Target.setArmed m.target binding.request (enabled && !bp.expired)).2 }
  /-- A request is armed for an unbound breakpoint. -/
  | bind {id : Nat} {anchor : Anchor} {request : Int} {target : τ} {bp : Breakpoint} :
      m.find? id = some bp → bp.binding = none →
        Target.arm m.target (bp.requestFor anchor) = (.ok request, target) →
          Change scope m
            { m.store { bp with binding := some ⟨request, anchor, false⟩ } id with
              target
              requests := m.requests.insert request id }
  /-- A breakpoint is unbound and its request is cleared. -/
  | release {id : Nat} {bp : Breakpoint} {binding : Binding} :
      m.find? id = some bp → bp.binding = some binding →
        Change scope m
          { m.store { bp with binding := none } id with
            target := (Target.clear m.target binding.request).2
            requests := m.requests.erase binding.request }
  /-- A breakpoint is unbound, and its request is left to a dead target. -/
  | forget {id : Nat} {bp : Breakpoint} {binding : Binding} :
      scope.deaths → m.find? id = some bp → bp.binding = some binding →
        Change scope m
          { m.store { bp with binding := none } id with
            requests := m.requests.erase binding.request }
  /-- A breakpoint expires with the hit of its request, which is disarmed. -/
  | expire {id stopCount : Nat} {request : Int} {bp : Breakpoint} :
      m.find? id = some bp → m.requests.find? request = some id →
        Change scope m
          { m.store { bp with stopCount, expired := true } id with
            target := (Target.setArmed m.target request false).2 }
  /-- A breakpoint is reset that has no request to be armed again. -/
  | restart {id : Nat} {bp : Breakpoint} :
      scope.resets id → m.find? id = some bp →
        (bp.binding = none ∨ (bp.expired && bp.enabled) = false) →
          Change scope m (m.store bp.reset id)
  /-- An expired breakpoint is reset, and its request is armed again. -/
  | rearm {id : Nat} {bp : Breakpoint} {binding : Binding} :
      scope.resets id → m.find? id = some bp → bp.binding = some binding →
        (bp.expired && bp.enabled) = true →
          Change scope m
            { m.store bp.reset id with
              target := (Target.setArmed m.target binding.request true).2 }
  | destroy (id : Nat) : Change scope m (m.destroy id).2
  /-- Names, flags and links of groups change. -/
  | regroup {groups : GroupTree} :
      m.groups.Reshaped groups → Change scope m { m with groups }
  /-- A breakpoint goes to another group. -/
  | transfer {id group : Nat} {groups : GroupTree} {bp : Breakpoint} :
      m.find? id = some bp → m.groups.moveMember id (some bp.group) group = .ok groups →
        Change scope m { m.store { bp with group } id with groups }
  /-- Groups go with all their members. -/
  | removeGroup {group : Nat} {orphans : List Nat} {groups : GroupTree} :
      m.groups.remove group = .ok (orphans, groups) →
        Change scope m (orphans.foldl (fun m id => (m.destroy id).2) { m with groups })

/-- A row of elementary changes. -/
abbrev Leads (scope : Scope τ) : Registry τ → Registry τ → Prop :=
  Relation.ReflTransGen (Change scope)

theorem Change.leads (h : Change scope m m') : Leads scope m m' :=
  .single h

section Destroy

theorem destroy_of_none {id : Nat} (hfind : m.find? id = none) : m.destroy id = (false, m) := by
  rw [destroy, hfind]

theorem destroy_of_unbound {id : Nat} {bp : Breakpoint} (hfind : m.find? id = some bp)
    (hbinding : bp.binding = none) :
    (m.destroy id).2 =
      { m with
        breakpoints := m.breakpoints.erase id
        groups := (m.groups.removeMember bp.group id).2 } := by
  simp only [destroy, hfind, hbinding]

theorem destroy_of_bound {id : Nat} {bp : Breakpoint} {binding : Binding}
    (hfind : m.find? id = some bp) (hbinding : bp.binding = some binding) :
    (m.destroy id).2 =
      { m with
        target := (Target.clear m.target binding.request).2
        breakpoints := m.breakpoints.erase id
        requests := m.requests.erase binding.request
        groups := (m.groups.removeMember bp.group id).2 } := by
  simp only [destroy, hfind, hbinding, clearRequest]

theorem destroy_groups {id : Nat} {bp : Breakpoint} (hfind : m.find? id = some bp) :
    (m.destroy id).2.groups = (m.groups.removeMember bp.group id).2 := by
  cases hbinding : bp.binding with
  | none => rw [destroy_of_unbound hfind hbinding]
  | some binding => rw [destroy_of_bound hfind hbinding]

theorem destroy_fields (m : Registry τ) (id : Nat) :
    (m.destroy id).2.kit = m.kit ∧ (m.destroy id).2.settings = m.settings ∧
      (m.destroy id).2.nextId = m.nextId := by
  cases hfind : m.find? id with
  | none => simp [destroy_of_none hfind]
  | some bp =>
      cases hbinding : bp.binding with
      | none => simp [destroy_of_unbound hfind hbinding]
      | some binding => simp [destroy_of_bound hfind hbinding]

theorem find?_destroy (m : Registry τ) (id j : Nat) :
    (m.destroy id).2.find? j = if j = id then none else m.find? j := by
  cases hfind : m.find? id with
  | none =>
      rw [destroy_of_none hfind]
      split
      next heq => rw [heq, hfind]
      next => rfl
  | some bp =>
      cases hbinding : bp.binding with
      | none =>
          rw [destroy_of_unbound hfind hbinding]
          exact Table.find?_erase m.breakpoints id j
      | some binding =>
          rw [destroy_of_bound hfind hbinding]
          exact Table.find?_erase m.breakpoints id j

theorem find?_foldl_destroy (m : Registry τ) (ids : List Nat) (j : Nat) :
    (ids.foldl (fun m id => (m.destroy id).2) m).find? j =
      if j ∈ ids then none else m.find? j := by
  induction ids generalizing m with
  | nil => simp
  | cons id ids ih =>
      rw [List.foldl_cons, ih, find?_destroy]
      by_cases hid : j = id
      · simp [hid]
      · simp [hid]

/-- What was stored for a breakpoint on its way out does not matter. -/
theorem destroy_store {id : Nat} {bp bp' : Breakpoint} (hfind : m.find? id = some bp)
    (hbinding : bp'.binding = bp.binding) (hgroup : bp'.group = bp.group) :
    ((m.store bp' id).destroy id).2 = (m.destroy id).2 := by
  have hfind' : (m.store bp' id).find? id = some bp' := Table.find?_insert_self _ _ _
  cases hb : bp.binding with
  | none =>
      rw [destroy_of_unbound hfind hb, destroy_of_unbound hfind' (hbinding.trans hb), hgroup]
      simp only [store, Table.erase_insert]
  | some binding =>
      rw [destroy_of_bound hfind hb, destroy_of_bound hfind' (hbinding.trans hb), hgroup]
      simp only [store, Table.erase_insert]

end Destroy

end Registry

end Breakpoints
