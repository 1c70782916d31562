import Mathlib.Data.List.Basic

/-!
Walks with a stack.  The last place is taken off the stack, and the places where it goes on are put
there for it, the first of them last, until the stack is empty.  Such a walk ends in one way at
most, and from several places it is the walks from each of them, one after another.
-/

namespace Breakpoints

variable {α β : Type}

/-- The ways on from a place: what a walk lists for it, and the places where it goes on.  There may
be nothing at a place. -/
abbrev Ways (α β : Type) : Type := α → Option (β × List α)

/-- One turn of a walk: what it lists, if anything, and the stack after it. -/
def Ways.turn (ways : Ways α β) (stack : List α) : Option (Option β × List α) :=
  stack.getLast?.map fun place =>
    match ways place with
    | none => (none, stack.dropLast)
    | some (found, next) => (some found, stack.dropLast ++ next.reverse)

/-- `Walks ways turns stack listed` says that the walk from a stack ends after so many turns, and
what it has listed by then. -/
inductive Walks (ways : Ways α β) : Nat → List α → List β → Prop where
  | done {stack : List α} : ways.turn stack = none → Walks ways 0 stack []
  | turn {turns : Nat} {stack rest : List α} {found : Option β} {listed : List β} :
      ways.turn stack = some (found, rest) → Walks ways turns rest listed →
        Walks ways (turns + 1) stack (found.toList ++ listed)

variable {ways : Ways α β}

theorem Ways.turn_eq_none_iff {stack : List α} : ways.turn stack = none ↔ stack = [] := by
  rw [turn, Option.map_eq_none_iff, List.getLast?_eq_none_iff]

theorem Ways.turn_concat (stack : List α) (place : α) : ways.turn (stack ++ [place]) =
    some (match ways place with
      | none => (none, stack)
      | some (found, next) => (some found, stack ++ next.reverse)) := by
  rw [turn, List.getLast?_concat, Option.map_some, List.dropLast_concat]

/-- What lies below on the stack has to wait. -/
theorem Ways.turn_append {upper rest : List α} {found : Option β}
    (h : ways.turn upper = some (found, rest)) (lower : List α) :
    ways.turn (lower ++ upper) = some (found, lower ++ rest) := by
  rcases List.eq_nil_or_concat upper with rfl | ⟨front, place, rfl⟩
  · rw [turn_eq_none_iff.mpr rfl] at h
    contradiction
  · rw [List.concat_eq_append, turn_concat] at h
    rw [List.concat_eq_append, ← List.append_assoc, turn_concat]
    cases hplace : ways place with
    | none =>
        rw [hplace] at h
        cases h
        rfl
    | some ahead =>
        rw [hplace] at h
        cases h
        simp only [List.append_assoc]

namespace Walks

variable {turns turns' : Nat} {stack : List α} {listed listed' : List β}

theorem nil : Walks ways 0 [] [] :=
  .done (Ways.turn_eq_none_iff.mpr rfl)

/-- A walk ends in one way at most. -/
theorem unique (h : Walks ways turns stack listed) (h' : Walks ways turns' stack listed') :
    turns = turns' ∧ listed = listed' := by
  induction h generalizing turns' listed' with
  | done hdone =>
      cases h' with
      | done _ => exact ⟨rfl, rfl⟩
      | turn hturn _ =>
          rw [hdone] at hturn
          contradiction
  | turn hturn _ ih =>
      cases h' with
      | done hdone =>
          rw [hdone] at hturn
          contradiction
      | turn hturn' hrest =>
          rw [hturn] at hturn'
          cases hturn'
          obtain ⟨rfl, rfl⟩ := ih hrest
          exact ⟨rfl, rfl⟩

/-- The upper part of a stack is walked first, and then the lower part. -/
theorem append {upper lower : List α} (hupper : Walks ways turns upper listed)
    (hlower : Walks ways turns' lower listed') :
    Walks ways (turns + turns') (lower ++ upper) (listed ++ listed') := by
  induction hupper with
  | done hdone =>
      rw [Ways.turn_eq_none_iff.mp hdone, List.append_nil, Nat.zero_add]
      exact hlower
  | turn hturn _ ih =>
      rw [Nat.add_right_comm, List.append_assoc]
      exact .turn (Ways.turn_append hturn lower) ih

/-- The place that comes next is listed, and the walk goes on from there before all others. -/
theorem cons {place : α} {found : β} {next : List α} (hplace : ways place = some (found, next))
    (h : Walks ways turns (next ++ stack).reverse listed) :
    Walks ways (turns + 1) (place :: stack).reverse (found :: listed) := by
  have hturn : ways.turn (place :: stack).reverse = some (some found, (next ++ stack).reverse) := by
    rw [List.reverse_cons, Ways.turn_concat, hplace, List.reverse_append]
  exact .turn hturn h

/-- From a single place, what it lists comes first. -/
theorem single {place : α} {found : β} {next : List α} (hplace : ways place = some (found, next))
    (h : Walks ways turns next.reverse listed) :
    Walks ways (turns + 1) [place] (found :: listed) := by
  have hbelow : Walks ways turns (next ++ []).reverse listed := by rwa [List.append_nil]
  exact cons hplace hbelow

/-- The walk from several places is the walks from each of them, in their order. -/
theorem flatMap {places : List α} {found : α → List β}
    (h : ∀ place ∈ places, ∃ turns, Walks ways turns [place] (found place)) :
    ∃ turns, Walks ways turns places.reverse (places.flatMap found) := by
  induction places with
  | nil => exact ⟨0, nil⟩
  | cons place places ih =>
      obtain ⟨⟨turns, hfirst⟩, hrest⟩ := List.forall_mem_cons.mp h
      obtain ⟨turns', hothers⟩ := ih hrest
      rw [List.reverse_cons, List.flatMap_cons]
      exact ⟨turns + turns', hfirst.append hothers⟩

end Walks

end Breakpoints
