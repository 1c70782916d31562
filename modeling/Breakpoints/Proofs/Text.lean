import Breakpoints.Text.Blank
import Mathlib.Data.List.Basic
import Mathlib.Data.List.TakeDrop
import Mathlib.Data.List.TakeWhile

/-!
Dividing texts and joining them again, and the white space around them.
-/

namespace Breakpoints.Text

section Span

variable {α : Type} {p : α → Bool} {l front : List α}

/-- A list is divided before the first element without a property. -/
theorem span_eq_cons_iff {a : α} {rest : List α} : l.span p = (front, a :: rest) ↔
    l = front ++ a :: rest ∧ (∀ x ∈ front, p x = true) ∧ p a = false := by
  rw [List.span_eq_takeWhile_dropWhile, Prod.mk.injEq]
  constructor
  · rintro ⟨rfl, hrest⟩
    refine ⟨?_, fun x hx => List.mem_takeWhile_imp hx, ?_⟩
    · rw [← hrest, List.takeWhile_append_dropWhile]
    · have hhead := List.head?_dropWhile_not p l
      rw [hrest] at hhead
      exact hhead
  · rintro ⟨rfl, hfront, ha⟩
    constructor
    · rw [List.takeWhile_append_of_pos hfront, List.takeWhile_cons_of_neg (by simp [ha]),
        List.append_nil]
    · rw [List.dropWhile_append_of_pos hfront, List.dropWhile_cons_of_neg (by simp [ha])]

theorem span_eq_nil_iff : l.span p = (front, []) ↔ l = front ∧ ∀ x ∈ l, p x = true := by
  rw [List.span_eq_takeWhile_dropWhile, Prod.mk.injEq, List.dropWhile_eq_nil_iff]
  constructor
  · rintro ⟨rfl, hall⟩
    exact ⟨(List.takeWhile_eq_self_iff.mpr hall).symm, hall⟩
  · rintro ⟨rfl, hall⟩
    exact ⟨List.takeWhile_eq_self_iff.mpr hall, hall⟩

end Span

/-- A text without the character that is exchanged stays as it is. -/
theorem map_exchange_eq_self {old new : Char} {s : List Char} (h : old ∉ s) :
    s.map (fun c => if c = old then new else c) = s := by
  have hid : ∀ c ∈ s, (if c = old then new else c) = id c := by
    intro c hc
    refine if_neg ?_
    rintro rfl
    exact h hc
  rw [List.map_congr_left hid, List.map_id]

section Split

/-- A character of a joined text stands in the divider or in one of the pieces. -/
theorem mem_of_mem_intercalate {c : Char} {divider : List Char} {pieces : List (List Char)}
    (h : c ∈ divider.intercalate pieces) : c ∈ divider ∨ ∃ piece ∈ pieces, c ∈ piece := by
  induction pieces with
  | nil => simp at h
  | cons first rest ih =>
      cases rest with
      | nil => exact .inr ⟨first, List.mem_singleton_self first, by simpa using h⟩
      | cons second rest =>
          simp only [List.intercalate_cons_cons, List.mem_append] at h
          rcases h with (hfirst | hdivider) | hrest
          · exact .inr ⟨first, List.mem_cons_self, hfirst⟩
          · exact .inl hdivider
          · rcases ih hrest with hdivider | ⟨piece, hpiece, hin⟩
            · exact .inl hdivider
            · exact .inr ⟨piece, List.mem_cons_of_mem first hpiece, hin⟩

/-- Every character that does not divide a text stands in one of the pieces. -/
theorem exists_mem_splitOn {c d : Char} {s : List Char} (hc : c ∈ s) (hne : c ≠ d) :
    ∃ piece ∈ s.splitOn d, c ∈ piece := by
  have hjoined : c ∈ [d].intercalate (s.splitOn d) := by rwa [List.intercalate_splitOn]
  exact (mem_of_mem_intercalate hjoined).resolve_left (by simpa using hne)

/-- The pieces are taken from the text. -/
theorem mem_of_mem_splitOn {c d : Char} {s piece : List Char} (h : piece ∈ s.splitOn d)
    (hc : c ∈ piece) : c ∈ s := by
  have hjoined : [d].intercalate (s.splitOn d) = s := List.intercalate_splitOn d
  rw [← hjoined]
  generalize s.splitOn d = pieces at h
  induction pieces with
  | nil => contradiction
  | cons first rest ih =>
      cases rest with
      | nil =>
          rw [List.mem_singleton] at h
          simpa [← h] using hc
      | cons second rest =>
          rw [List.intercalate_cons_cons, List.mem_append, List.mem_append]
          rcases List.mem_cons.mp h with rfl | hrest
          · exact .inl (.inl hc)
          · exact .inr (ih hrest)

/-- The divider stands in none of the pieces. -/
theorem not_mem_of_mem_splitOn {d : Char} {s piece : List Char} (h : piece ∈ s.splitOn d) :
    d ∉ piece := by
  induction s generalizing piece with
  | nil =>
      rw [List.splitOn_nil, List.mem_singleton] at h
      rw [h]
      exact List.not_mem_nil
  | cons c s ih =>
      rw [List.splitOn_cons_eq_if_modifyHead] at h
      split at h
      next =>
        rcases List.mem_cons.mp h with rfl | hrest
        · exact List.not_mem_nil
        · exact ih hrest
      next hne =>
        cases hsplit : s.splitOn d with
        | nil => simp [hsplit] at h
        | cons first rest =>
            rw [hsplit] at ih h
            rcases List.mem_cons.mp h with rfl | hrest
            · rw [List.mem_cons]
              rintro (rfl | hmem)
              · simp at hne
              · exact ih List.mem_cons_self hmem
            · exact ih (List.mem_cons_of_mem first hrest)

/-- The parts of joined pieces are the parts of the pieces. -/
theorem splitOn_intercalate_parts {d : Char} {pieces : List (List Char)} (h : pieces ≠ []) :
    ([d].intercalate pieces).splitOn d = pieces.flatMap fun piece => piece.splitOn d := by
  induction pieces with
  | nil => contradiction
  | cons first rest ih =>
      cases rest with
      | nil => simp
      | cons second rest =>
          rw [List.intercalate_cons_cons, List.append_assoc, List.singleton_append,
            List.flatMap_cons, ← ih (List.cons_ne_nil _ _)]
          exact List.splitOnP_append_cons _ _ (beq_self_eq_true d)

theorem intercalate_append {divider : List Char} {front rest : List (List Char)}
    (hfront : front ≠ []) (hrest : rest ≠ []) : divider.intercalate (front ++ rest) =
      divider.intercalate front ++ divider ++ divider.intercalate rest := by
  induction front with
  | nil => contradiction
  | cons first front ih =>
      obtain ⟨second, later, rfl⟩ := List.exists_cons_of_ne_nil hrest
      cases front with
      | nil => simp [List.intercalate_cons_cons]
      | cons next front =>
          have hmore := ih (List.cons_ne_nil next front)
          rw [List.cons_append, List.cons_append, List.intercalate_cons_cons,
            List.intercalate_cons_cons, ← List.cons_append, hmore]
          simp only [List.append_assoc]

/-- A blank behind each divider belongs to the piece that follows. -/
theorem intercalate_blank (d : Char) (first : List Char) (rest : List (List Char)) :
    [d, ' '].intercalate (first :: rest) = [d].intercalate (first :: rest.map (' ' :: ·)) := by
  induction rest generalizing first with
  | nil => rfl
  | cons second rest ih =>
      have hmoved : ' ' :: [d].intercalate (second :: rest.map (' ' :: ·)) =
          [d].intercalate ((' ' :: second) :: rest.map (' ' :: ·)) := by
        cases rest with
        | nil => rfl
        | cons third rest => rfl
      rw [List.intercalate_cons_cons, ih, List.map_cons, List.intercalate_cons_cons, ← hmoved]
      simp

end Split

section Trim

/-- A text with no white space at its ends. -/
structure Trimmed (s : List Char) : Prop where
  head : ∀ c, s.head? = some c → isBlank c = false
  last : ∀ c, s.getLast? = some c → isBlank c = false

theorem dropWhile_eq_self {p : Char → Bool} {s : List Char}
    (h : ∀ c, s.head? = some c → p c = false) : s.dropWhile p = s := by
  cases s with
  | nil => rfl
  | cons c s => exact List.dropWhile_cons_of_neg (by simp [h c rfl])

theorem Trimmed.trim_eq {s : List Char} (h : Trimmed s) : trim s = s := by
  have hreverse : ∀ c, s.reverse.head? = some c → isBlank c = false := by
    intro c hc
    rw [List.head?_reverse] at hc
    exact h.last c hc
  rw [trim, dropWhile_eq_self h.head, dropWhile_eq_self hreverse, List.reverse_reverse]

theorem Trimmed.of_plain {s : List Char} (h : ∀ c ∈ s, isBlank c = false) : Trimmed s where
  head c hc := h c (List.mem_of_mem_head? hc)
  last c hc := h c (List.mem_of_mem_getLast? hc)

theorem Trimmed.append {front back : List Char} (hfront : Trimmed front) (hback : Trimmed back)
    (hhead : front ≠ []) (hlast : back ≠ []) : Trimmed (front ++ back) where
  head c hc := hfront.head c (by rwa [List.head?_append_of_ne_nil _ hhead] at hc)
  last c hc := hback.last c (by rwa [List.getLast?_append_of_ne_nil _ hlast] at hc)

theorem head?_dropWhile {p : Char → Bool} {s : List Char} {c : Char}
    (h : (s.dropWhile p).head? = some c) : p c = false := by
  have hhead := List.head?_dropWhile_not p s
  rw [h] at hhead
  exact hhead

theorem trim_trimmed (s : List Char) : Trimmed (trim s) where
  head c hc := by
    obtain ⟨front, hfront⟩ := List.dropWhile_suffix isBlank (l := (s.dropWhile isBlank).reverse)
    have hsplit : s.dropWhile isBlank = trim s ++ front.reverse := by
      rw [trim, ← List.reverse_append, hfront, List.reverse_reverse]
    apply head?_dropWhile (s := s)
    rw [hsplit, List.head?_append, hc]
    rfl
  last c hc := by
    rw [trim, List.getLast?_reverse] at hc
    exact head?_dropWhile hc

theorem trim_trim (s : List Char) : trim (trim s) = trim s :=
  (trim_trimmed s).trim_eq

theorem mem_of_mem_trim {s : List Char} {c : Char} (h : c ∈ trim s) : c ∈ s := by
  rw [trim, List.mem_reverse] at h
  have hinner := (List.dropWhile_suffix isBlank).subset h
  exact (List.dropWhile_suffix isBlank).subset (List.mem_reverse.mp hinner)

theorem trim_blank_cons (s : List Char) : trim (' ' :: s) = trim s := by
  rw [trim, List.dropWhile_cons_of_pos (by rfl), trim]

/-- Something is left of a text that is not all white space. -/
theorem trim_ne_nil_iff {s : List Char} : trim s ≠ [] ↔ ∃ c ∈ s, isBlank c = false := by
  constructor
  · intro hsome
    obtain ⟨c, rest, hcons⟩ := List.exists_cons_of_ne_nil hsome
    have hmem : c ∈ trim s := by simp [hcons]
    exact ⟨c, mem_of_mem_trim hmem, (trim_trimmed s).head c (by simp [hcons])⟩
  · rintro ⟨c, hc, hplain⟩ hnone
    rw [trim, List.reverse_eq_nil_iff, List.dropWhile_eq_nil_iff] at hnone
    rw [← List.takeWhile_append_dropWhile (p := isBlank) (l := s), List.mem_append] at hc
    have hblank : isBlank c = true := by
      rcases hc with hfront | hback
      · exact List.mem_takeWhile_imp hfront
      · exact hnone c (List.mem_reverse.mpr hback)
    rw [hplain] at hblank
    contradiction

theorem intercalate_ne_nil {d : Char} {first : List Char} {rest : List (List Char)}
    (h : first ≠ []) : [d].intercalate (first :: rest) ≠ [] := by
  cases rest with
  | nil => simpa using h
  | cons second rest => simp [List.intercalate_cons_cons]

/-- Joining texts without white space at their ends puts none at the ends. -/
theorem Trimmed.intercalate {d : Char} {pieces : List (List Char)}
    (h : ∀ piece ∈ pieces, Trimmed piece ∧ piece ≠ []) : Trimmed ([d].intercalate pieces) := by
  induction pieces with
  | nil => exact ⟨by simp, by simp⟩
  | cons first rest ih =>
      rw [List.forall_mem_cons] at h
      cases rest with
      | nil => simpa using h.1.1
      | cons second rest =>
          obtain ⟨⟨hfirst, hsome⟩, hrest⟩ := h
          have hlater := ih hrest
          have hmore : [d].intercalate (second :: rest) ≠ [] :=
            intercalate_ne_nil (hrest second List.mem_cons_self).2
          rw [List.intercalate_cons_cons]
          refine ⟨fun c hc => hfirst.head c ?_, fun c hc => hlater.last c ?_⟩
          · rw [← hc, List.append_assoc, List.head?_append_of_ne_nil first hsome]
          · rw [← hc, List.getLast?_append_of_ne_nil _ hmore]

end Trim

end Breakpoints.Text
