import Mathlib.Data.List.Basic
import Mathlib.Data.List.Forall2

/-!
Computations that may fail, and rows of them.
-/

namespace Breakpoints

/-- What a computation gave before the last step was applied to it. -/
theorem exists_of_map_eq_ok {ε α β : Type} {f : α → β} {result : Except ε α} {b : β}
    (h : result.map f = .ok b) : ∃ a, result = .ok a ∧ b = f a := by
  cases result with
  | error e => contradiction
  | ok a =>
      cases h
      exact ⟨a, rfl, rfl⟩

theorem mapM_cons_eq_ok_iff {ε α β : Type} {f : α → Except ε β} {a : α} {inputs : List α}
    {outputs : List β} : (a :: inputs).mapM f = .ok outputs ↔
      ∃ b rest, f a = .ok b ∧ inputs.mapM f = .ok rest ∧ outputs = b :: rest := by
  rw [List.mapM_cons]
  cases f a with
  | error e => simp [bind, Except.bind]
  | ok b =>
      cases inputs.mapM f with
      | error e => simp [bind, Except.bind]
      | ok rest => simp [bind, Except.bind, pure, Except.pure, eq_comm]

/-- A row of computations succeeds if each of them does. -/
theorem mapM_eq_ok_iff {ε α β : Type} {f : α → Except ε β} {inputs : List α} {outputs : List β} :
    inputs.mapM f = .ok outputs ↔ List.Forall₂ (fun a b => f a = .ok b) inputs outputs := by
  induction inputs generalizing outputs with
  | nil => simp [pure, Except.pure, eq_comm]
  | cons a inputs ih => simp only [mapM_cons_eq_ok_iff, List.forall₂_cons_left_iff, ih]

/-- Computations that never fail give all their results. -/
theorem mapM_eq_ok_map {ε α β : Type} {f : α → Except ε β} {g : α → β} (h : ∀ a, f a = .ok (g a))
    (inputs : List α) : inputs.mapM f = .ok (inputs.map g) := by
  rw [mapM_eq_ok_iff, List.forall₂_map_right_iff, List.forall₂_same]
  exact fun a _ => h a

/-- Inputs that can be read off their results can be read off a row of results. -/
theorem map_eq_of_mapM_eq_ok {ε α β : Type} {f : α → Except ε β} {g : β → α}
    (hback : ∀ a b, f a = .ok b → g b = a) {inputs : List α} {outputs : List β}
    (h : inputs.mapM f = .ok outputs) : outputs.map g = inputs := by
  have hforall := mapM_eq_ok_iff.mp h
  clear h
  induction hforall with
  | nil => rfl
  | cons hfirst _ ih => rw [List.map_cons, ih, hback _ _ hfirst]

/-- Each result of a row of computations is the result of one of them. -/
theorem exists_of_mem_mapM {ε α β : Type} {f : α → Except ε β} {inputs : List α} {outputs : List β}
    (h : inputs.mapM f = .ok outputs) {b : β} (hb : b ∈ outputs) :
    ∃ a ∈ inputs, f a = .ok b := by
  have hforall := mapM_eq_ok_iff.mp h
  clear h
  induction hforall with
  | nil => contradiction
  | cons hfirst _ ih =>
      rcases List.mem_cons.mp hb with rfl | hlater
      · exact ⟨_, List.mem_cons_self, hfirst⟩
      · obtain ⟨a, ha, hfa⟩ := ih hlater
        exact ⟨a, List.mem_cons_of_mem _ ha, hfa⟩

/-- Computations of which none succeeds fail as a row, unless there is none at all. -/
theorem exists_mapM_eq_error {ε α β : Type} {f : α → Except ε β} {inputs : List α}
    (hne : inputs ≠ []) (h : ∀ a b, f a ≠ .ok b) : ∃ e, inputs.mapM f = .error e := by
  cases hmap : inputs.mapM f with
  | error e => exact ⟨e, rfl⟩
  | ok outputs =>
      cases mapM_eq_ok_iff.mp hmap with
      | nil => contradiction
      | cons hfirst _ => exact absurd hfirst (h _ _)

/-- The first result of a row stands before the others, if there is one. -/
theorem toList_append_filterMap {α β : Type} (f : α → Option β) (a : α) (rest : List α) :
    (f a).toList ++ rest.filterMap f = (a :: rest).filterMap f := by
  rw [List.filterMap_eq_flatMap_toList, List.filterMap_eq_flatMap_toList, List.flatMap_cons]

end Breakpoints
