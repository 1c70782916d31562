import Breakpoints.Proofs.Table
import Breakpoints.Proofs.Target.History
import Breakpoints.Target.Scripted

/-!
What the scripted target does with requests.  Their ids count up, so none is given twice.
-/

namespace Breakpoints.ScriptedTarget

/-- A change of what is loaded, of the threads or of the current place. -/
def KeepsRequests (change : ScriptedTarget → ScriptedTarget) : Prop :=
  ∀ t, (change t).requests = t.requests ∧ (change t).created = t.created ∧
    (change t).cleared = t.cleared ∧ (change t).disconnected = t.disconnected

/-- A change after which the target counts on from where it was, whatever else it does. -/
def Counts (change : ScriptedTarget → ScriptedTarget) : Prop :=
  ∀ t, t.created ≤ (change t).created

theorem KeepsRequests.counts {change : ScriptedTarget → ScriptedTarget}
    (h : KeepsRequests change) : Counts change :=
  fun t => Nat.le_of_eq (h t).2.1.symm

theorem arm_eq_ok {t t' : ScriptedTarget} {spec : RequestSpec} {request : Int}
    (h : t.arm spec = (.ok request, t')) : request = t.created + 1 ∧
      t' = { t with
        created := t.created + 1
        requests := t.requests.insert request ⟨spec, spec.enabled⟩ } := by
  rw [arm] at h
  split at h
  · cases h
  · cases h
    exact ⟨rfl, rfl⟩

theorem arm_eq_error {t t' : ScriptedTarget} {spec : RequestSpec} {e : TargetFailure}
    (h : t.arm spec = (.error e, t')) : t' = t := by
  rw [arm] at h
  split at h
  · cases h
    rfl
  · cases h

theorem setArmed_fields (t : ScriptedTarget) (request : Int) (enabled : Bool) :
    (t.setArmed request enabled).2.disconnected = t.disconnected ∧
      (t.setArmed request enabled).2.created = t.created ∧
      (t.setArmed request enabled).2.cleared = t.cleared := by
  rw [setArmed]
  split
  · exact ⟨rfl, rfl, rfl⟩
  split
  · exact ⟨rfl, rfl, rfl⟩
  · exact ⟨rfl, rfl, rfl⟩

theorem clear_fields (t : ScriptedTarget) (request : Int) :
    (t.clear request).2.disconnected = t.disconnected ∧
      (t.clear request).2.created = t.created := by
  rw [clear]
  split
  · exact ⟨rfl, rfl⟩
  split
  · exact ⟨rfl, rfl⟩
  · exact ⟨rfl, rfl⟩

/-- What a target is apart from its requests. -/
def bare (t : ScriptedTarget) : ScriptedTarget :=
  { t with requests := ∅, cleared := [] }

theorem bare_setArmed (t : ScriptedTarget) (request : Int) (enabled : Bool) :
    (t.setArmed request enabled).2.bare = t.bare := by
  rw [setArmed]
  split
  · rfl
  split
  · rfl
  · rfl

theorem bare_clear (t : ScriptedTarget) (request : Int) : (t.clear request).2.bare = t.bare := by
  rw [clear]
  split
  · rfl
  split
  · rfl
  · rfl

theorem disconnected_eq_of_bare {t t' : ScriptedTarget} (h : t'.bare = t.bare) :
    t'.disconnected = t.disconnected := by
  have hflag := congrArg (·.disconnected) h
  exact hflag

/-- Targets with the same requests differ in something else, or in what was cleared when. -/
theorem eq_of_bare {t t' : ScriptedTarget} (hbare : t'.bare = t.bare)
    (hrequests : ∀ k, t'.requests.find? k = t.requests.find? k) :
    t' = { t with cleared := t'.cleared } := by
  have hsame : t'.requests = t.requests := Table.ext_find? hrequests
  cases t
  cases t'
  simp only [bare, mk.injEq] at hbare hsame ⊢
  simp [hbare, hsame]

section Connected

variable {t : ScriptedTarget} (hconnected : t.disconnected = false)

include hconnected

/-- A connected target switches the request that was asked for, if it is active. -/
theorem find?_setArmed (request : Int) (enabled : Bool) (k : Int) :
    (t.setArmed request enabled).2.requests.find? k =
      if k = request then (t.requests.find? request).map fun armed => { armed with enabled }
      else t.requests.find? k := by
  rw [setArmed, hconnected, if_neg Bool.false_ne_true]
  split
  next => exact Table.find?_modify t.requests request _ k
  next hgone =>
    split
    next heq =>
      rw [Bool.not_eq_true, Table.contains_eq_false_iff] at hgone
      rw [heq, hgone, Option.map_none]
    next => rfl

theorem setArmed_of_active {request : Int} (hactive : t.requests.contains request = true)
    (enabled : Bool) : (t.setArmed request enabled).1 = .ok () := by
  rw [setArmed, hconnected, if_neg Bool.false_ne_true, if_pos hactive]

theorem contains_setArmed (request : Int) (enabled : Bool) (k : Int) :
    (t.setArmed request enabled).2.requests.contains k = t.requests.contains k := by
  rw [Table.contains, find?_setArmed hconnected]
  split
  next heq => rw [heq, Option.isSome_map, Table.contains]
  next => rfl

theorem find?_clear (request k : Int) :
    (t.clear request).2.requests.find? k = if k = request then none else t.requests.find? k := by
  rw [clear, hconnected, if_neg Bool.false_ne_true]
  split
  next => exact Table.find?_erase t.requests request k
  next hgone =>
    split
    next heq =>
      rw [Bool.not_eq_true, Table.contains_eq_false_iff] at hgone
      rw [heq, hgone]
    next => rfl

theorem cleared_clear (request : Int) :
    (t.clear request).2.cleared =
      t.cleared ++ if t.requests.contains request then [request] else [] := by
  rw [clear, hconnected, if_neg Bool.false_ne_true]
  split
  · rfl
  · rw [List.append_nil]

/-- Clearing an active request moves it to the cleared ones. -/
theorem size_clear {request : Int} (hactive : t.requests.contains request = true) :
    (t.clear request).2.requests.size + (t.clear request).2.cleared.length =
      t.requests.size + t.cleared.length := by
  have hsize := Table.size_erase_add_one hactive
  rw [clear, hconnected, if_neg Bool.false_ne_true, if_pos hactive]
  simp only [List.length_append, List.length_singleton]
  omega

end Connected

section Issued

variable {drifts : (ScriptedTarget → ScriptedTarget) → Prop}

/-- The ids given out so far are different, and none is above the number of requests created. -/
theorem history_counted (hcounts : ∀ change, drifts change → Counts change)
    {start t : ScriptedTarget} {given : List Int} (hist : Target.History drifts start given t) :
    given.Nodup ∧ ∀ request ∈ given, request ≤ t.created := by
  induction hist with
  | start => exact ⟨List.nodup_nil, by simp⟩
  | drift _ hchange ih =>
      refine ⟨ih.1, fun request hmem => ?_⟩
      have hle := ih.2 request hmem
      exact Int.le_trans hle (Int.ofNat_le.mpr (hcounts _ hchange _))
  | armed _ harm ih =>
      obtain ⟨rfl, rfl⟩ := arm_eq_ok harm
      refine ⟨List.nodup_cons.mpr ⟨fun hmem => ?_, ih.1⟩, fun request hmem => ?_⟩
      · have hle := ih.2 _ hmem
        omega
      · rcases List.mem_cons.mp hmem with rfl | hold
        · simp
        · have hle := ih.2 request hold
          push_cast
          omega
  | refused _ harm ih => rwa [arm_eq_error harm]
  | switched request enabled _ ih =>
      refine ⟨ih.1, ?_⟩
      exact (setArmed_fields _ request enabled).2.1.symm ▸ ih.2
  | cleared request _ ih =>
      refine ⟨ih.1, ?_⟩
      exact (clear_fields _ request).2.symm ▸ ih.2

theorem neverReissues_of_counts (hcounts : ∀ change, drifts change → Counts change)
    (start : ScriptedTarget) : Target.NeverReissues drifts start :=
  fun _ _ hist => (history_counted hcounts hist).1

end Issued

theorem history_bounded {start t : ScriptedTarget} {given : List Int}
    (hist : Target.History KeepsRequests start given t) :
    given.Nodup ∧ ∀ request ∈ given, request ≤ t.created :=
  history_counted (fun _ h => h.counts) hist

theorem neverReissues (start : ScriptedTarget) : Target.NeverReissues KeepsRequests start :=
  neverReissues_of_counts (fun _ h => h.counts) start

end Breakpoints.ScriptedTarget
