import Breakpoints.Proofs.Kit
import Breakpoints.Registry.Records

/-!
What setting the policy and the filters of a breakpoint does, and what a record makes of a new one.
-/

namespace Breakpoints

namespace Breakpoint

variable {bp bp' : Breakpoint}

/-- A binding that gets stale keeps its request. -/
theorem request_markStale (bp : Breakpoint) :
    bp.markStale.binding.map (·.request) = bp.binding.map (·.request) := by
  rw [markStale, Option.map_map]
  rfl

theorem setPolicy_eq_ok {policy : SuspendPolicy} (h : bp.setPolicy policy = .ok bp') :
    bp.enabled = false ∧ bp' = { bp with policy }.markStale := by
  rw [setPolicy] at h
  split at h
  · contradiction
  next henabled =>
    cases h
    exact ⟨by simpa using henabled, rfl⟩

theorem setClassFilters_eq_ok {text : Option String} (h : bp.setClassFilters text = .ok bp') :
    bp.enabled = false ∧ ∃ classFilters, FilterList.readOptional text = .ok classFilters ∧
      bp' = { bp with classFilters }.markStale := by
  rw [setClassFilters] at h
  split at h
  · contradiction
  next henabled =>
    obtain ⟨classFilters, hread, rfl⟩ := exists_of_map_eq_ok h
    exact ⟨by simpa using henabled, classFilters, hread, rfl⟩

theorem setThreadFilters_eq_ok {text : Option String} (h : bp.setThreadFilters text = .ok bp') :
    bp.enabled = false ∧ ∃ threadFilters, FilterList.readOptional text = .ok threadFilters ∧
      bp' = { bp with threadFilters }.markStale := by
  rw [setThreadFilters] at h
  split at h
  · contradiction
  next henabled =>
    obtain ⟨threadFilters, hread, rfl⟩ := exists_of_map_eq_ok h
    exact ⟨by simpa using henabled, threadFilters, hread, rfl⟩

end Breakpoint

namespace Record

variable {record : Record} {conditions : List Condition} {monitors : List Monitor}
  {bp bp' : Breakpoint}

/-- What a record makes of a breakpoint, once its filters have been read. -/
def applied (record : Record) (conditions : List Condition) (monitors : List Monitor)
    (classFilters threadFilters : Option FilterList) (bp : Breakpoint) : Breakpoint :=
  { bp.markStale with
    enabled := record.enabled
    skipCount := record.skipCount
    expireCount := record.expireCount
    deleteOnExpire := record.deleteOnExpire
    policy := record.policy
    classFilters
    threadFilters
    conditions := bp.conditions ++ conditions
    monitors := bp.monitors ++ monitors
    properties := record.properties.entries.foldl (fun t e => t.insert e.1 e.2) bp.properties }

/-- Only the filters can keep a record from being applied. -/
theorem configure_eq_ok_iff : record.configure conditions monitors bp = .ok bp' ↔
    ∃ classFilters threadFilters,
      FilterList.readOptional record.classFilters = .ok classFilters ∧
      FilterList.readOptional record.threadFilters = .ok threadFilters ∧
      bp' = record.applied conditions monitors classFilters threadFilters bp := by
  constructor
  · intro h
    rw [configure] at h
    split at h
    · contradiction
    next styled hpolicy =>
      split at h
      · contradiction
      next classed hclasses =>
        split at h
        · contradiction
        next threaded hthreads =>
          cases h
          obtain ⟨-, rfl⟩ := Breakpoint.setPolicy_eq_ok hpolicy
          obtain ⟨-, classFilters, hclass, rfl⟩ := Breakpoint.setClassFilters_eq_ok hclasses
          obtain ⟨-, threadFilters, hthread, rfl⟩ := Breakpoint.setThreadFilters_eq_ok hthreads
          refine ⟨classFilters, threadFilters, hclass, hthread, ?_⟩
          simp [applied, Breakpoint.markStale, Function.comp_def]
  · rintro ⟨classFilters, threadFilters, hclass, hthread, rfl⟩
    simp [configure, Breakpoint.setPolicy, Breakpoint.setClassFilters, Breakpoint.setThreadFilters,
      Breakpoint.markStale, hclass, hthread, Except.map, applied, Function.comp_def]

/-- A new breakpoint is still new after a record has configured it. -/
theorem configure_fresh {id group : Nat} (hbp : bp.Fresh id group)
    (h : record.configure conditions monitors bp = .ok bp') : bp'.Fresh id group := by
  obtain ⟨classFilters, threadFilters, -, -, rfl⟩ := configure_eq_ok_iff.mp h
  have hunbound : bp.binding = none := hbp.binding_eq
  constructor
  · exact hbp.id_eq
  · exact hbp.group_eq
  · simp [applied, Breakpoint.markStale, hunbound]
  · exact hbp.stopCount_eq
  · exact hbp.expired_eq
  · exact hbp.destroyed_eq

/-- A record leaves the specification alone, and its filters are read from texts. -/
theorem configure_renewed (h : record.configure conditions monitors bp = .ok bp') :
    bp'.spec = bp.spec ∧ FilterList.Renewed bp.classFilters bp'.classFilters ∧
      FilterList.Renewed bp.threadFilters bp'.threadFilters := by
  obtain ⟨classFilters, threadFilters, hclass, hthread, rfl⟩ := configure_eq_ok_iff.mp h
  exact ⟨rfl, .inr ⟨_, hclass⟩, .inr ⟨_, hthread⟩⟩

end Record

end Breakpoints
