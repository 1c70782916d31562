import Breakpoints.Text.Pattern
import Mathlib.Data.List.Basic

/-!
What patterns read, apart from the order in which they try, and which of the ways comes first.
-/

namespace Breakpoints.Text

@[simp]
theorem Kept.text_mk (number : Nat) (part rest : List Char) :
    (Kept.mk number (part ++ rest) rest).text = part := by
  simp [Kept.text]

section Group

variable {rest : List Char} {kept : List Kept} {number : Nat}

/-- A part that was kept later hides the earlier ones with its number. -/
theorem group?_append (later : List Kept) : (⟨rest, later ++ kept⟩ : Reading).group? number =
    ((⟨rest, later⟩ : Reading).group? number).or ((⟨rest, kept⟩ : Reading).group? number) := by
  simp only [Reading.group?, List.find?_append, Option.map_or]

theorem group?_eq_none (h : ∀ part ∈ kept, part.number ≠ number) :
    (⟨rest, kept⟩ : Reading).group? number = none := by
  simpa [Reading.group?] using h

theorem group?_cons_self (part tail : List Char) :
    (⟨rest, ⟨number, part ++ tail, tail⟩ :: kept⟩ : Reading).group? number = some part := by
  simp [Reading.group?]

theorem group?_cons_of_ne {other : Nat} {start stop : List Char} (h : other ≠ number) :
    (⟨rest, ⟨other, start, stop⟩ :: kept⟩ : Reading).group? number =
      (⟨rest, kept⟩ : Reading).group? number := by
  simp [Reading.group?, h]

end Group

/-- A row of characters of a class can end behind each of its beginnings. -/
theorem mem_rowEnds_iff {fits : Char → Bool} {kept : List Kept} {s : List Char} {read : Reading} :
    read ∈ rowEnds fits kept s ↔
      ∃ row, s = row ++ read.rest ∧ (∀ c ∈ row, fits c = true) ∧ read.kept = kept := by
  induction s with
  | nil =>
      rw [rowEnds, List.mem_singleton]
      constructor
      · rintro rfl
        exact ⟨[], rfl, by simp, rfl⟩
      · rintro ⟨row, hrow, -, rfl⟩
        rw [eq_comm, List.append_eq_nil_iff] at hrow
        cases read
        cases hrow.2
        rfl
  | cons c s ih =>
      rw [rowEnds, List.mem_cons]
      constructor
      · rintro (rfl | hlater)
        · exact ⟨[], rfl, by simp, rfl⟩
        · split at hlater
          next hc =>
            obtain ⟨row, rfl, hrow, hkept⟩ := ih.mp hlater
            exact ⟨c :: row, rfl, List.forall_mem_cons.mpr ⟨hc, hrow⟩, hkept⟩
          next => contradiction
      · rintro ⟨row, hs, hrow, hkept⟩
        cases row with
        | nil =>
            cases read
            cases hs
            cases hkept
            exact .inl rfl
        | cons d row =>
            cases hs
            obtain ⟨hc, hrow⟩ := List.forall_mem_cons.mp hrow
            rw [if_pos hc]
            exact .inr (ih.mpr ⟨row, rfl, hrow, hkept⟩)

namespace Pattern

variable {fits : Char → Bool} {reading read : Reading} {pattern first second : Pattern}

section Ways

theorem mem_ways_one_iff : read ∈ (one fits).ways reading ↔
    ∃ c, reading.rest = c :: read.rest ∧ fits c = true ∧ read.kept = reading.kept := by
  obtain ⟨rest, kept⟩ := reading
  cases rest with
  | nil => simp [ways]
  | cons c rest =>
      simp only [ways]
      split
      next hc =>
        rw [List.mem_singleton]
        constructor
        · rintro rfl
          exact ⟨c, rfl, hc, rfl⟩
        · rintro ⟨_, hrest, -, hkept⟩
          cases read
          cases hrest
          cases hkept
          rfl
      next hc =>
        refine iff_of_false List.not_mem_nil ?_
        rintro ⟨_, hrest, hfits, -⟩
        cases hrest
        contradiction

theorem mem_ways_many_iff : read ∈ (many fits).ways reading ↔
    ∃ row, reading.rest = row ++ read.rest ∧ (∀ c ∈ row, fits c = true) ∧
      read.kept = reading.kept := by
  rw [ways, List.mem_reverse, mem_rowEnds_iff]

theorem mem_ways_seq_iff : read ∈ (seq first second).ways reading ↔
    ∃ between ∈ first.ways reading, read ∈ second.ways between := by
  rw [ways, List.mem_flatMap]

theorem mem_ways_row_iff : read ∈ (row fits).ways reading ↔
    ∃ row, reading.rest = row ++ read.rest ∧ row ≠ [] ∧ (∀ c ∈ row, fits c = true) ∧
      read.kept = reading.kept := by
  rw [Pattern.row, mem_ways_seq_iff]
  constructor
  · rintro ⟨between, hone, hmany⟩
    obtain ⟨c, hc, hfits, hkept⟩ := mem_ways_one_iff.mp hone
    obtain ⟨row, hrow, hall, hkept'⟩ := mem_ways_many_iff.mp hmany
    exact ⟨c :: row, by rw [hc, hrow, List.cons_append], List.cons_ne_nil c row,
      List.forall_mem_cons.mpr ⟨hfits, hall⟩, hkept'.trans hkept⟩
  · rintro ⟨row, hrow, hsome, hall, hkept⟩
    obtain ⟨c, row, rfl⟩ := List.exists_cons_of_ne_nil hsome
    obtain ⟨hc, hall⟩ := List.forall_mem_cons.mp hall
    exact ⟨⟨row ++ read.rest, reading.kept⟩, mem_ways_one_iff.mpr ⟨c, hrow, hc, rfl⟩,
      mem_ways_many_iff.mpr ⟨row, rfl, hall, hkept⟩⟩

theorem mem_ways_ending_iff :
    read ∈ ending.ways reading ↔ reading.rest = [] ∧ read = reading := by
  rw [ways]
  split
  next hend => simp [List.isEmpty_iff.mp hend]
  next hmore => simp [List.isEmpty_iff.not.mp hmore]

/-- A text is read if there is any way to read it. -/
theorem isSome_read?_iff {s : List Char} :
    (pattern.read? s).isSome = true ↔ ∃ read, read ∈ pattern.ways ⟨s, []⟩ := by
  rw [read?, List.isSome_head?, ← List.isEmpty_eq_false_iff, List.isEmpty_eq_false_iff_exists_mem]

theorem mem_ways_group_iff {number : Nat} : read ∈ (group number pattern).ways reading ↔
    ∃ part ∈ pattern.ways reading,
      read = { part with kept := ⟨number, reading.rest, part.rest⟩ :: part.kept } := by
  rw [ways, List.mem_map]
  simp only [eq_comm]

theorem mem_ways_maybe_iff :
    read ∈ (maybe pattern).ways reading ↔ read ∈ pattern.ways reading ∨ read = reading := by
  rw [ways, List.mem_append, List.mem_singleton]

end Ways

section Order

variable {α : Type} {go : Reading → Option α} {s : List Char} {kept : List Kept}

/-- The first way to read one thing and then another is the first way to read the one from which
there is a way to read the other. -/
theorem head?_ways_seq : ((seq first second).ways reading).head? =
    (first.ways reading).findSome? fun between => (second.ways between).head? := by
  rw [ways, List.head?_flatMap]

/-- The same for the first way from which it goes on. -/
theorem findSome?_ways_seq : ((seq first second).ways reading).findSome? go =
    (first.ways reading).findSome? fun between => (second.ways between).findSome? go := by
  rw [ways]
  induction first.ways reading with
  | nil => rfl
  | cons between rest ih =>
      rw [List.flatMap_cons, List.findSome?_append, List.findSome?_cons, ih]
      cases (second.ways between).findSome? go with
      | none => rfl
      | some a => rfl

theorem findSome?_one_cons (c : Char) : ((one fits).ways ⟨c :: s, kept⟩).findSome? go =
    if fits c then go ⟨s, kept⟩ else none := by
  simp only [ways]
  split
  next => simp
  next => rfl

/-- A row ends as far on as it can go on from there. -/
theorem findSome?_many_cons (c : Char) : ((many fits).ways ⟨c :: s, kept⟩).findSome? go =
    if fits c then (((many fits).ways ⟨s, kept⟩).findSome? go).or (go ⟨c :: s, kept⟩)
    else go ⟨c :: s, kept⟩ := by
  simp only [ways, rowEnds, List.reverse_cons, List.findSome?_append]
  split
  next => simp
  next => simp

theorem findSome?_many_nil :
    ((many fits).ways ⟨[], kept⟩).findSome? go = go ⟨[], kept⟩ := by
  simp [ways, rowEnds]

theorem findSome?_row_cons (c : Char) : ((row fits).ways ⟨c :: s, kept⟩).findSome? go =
    if fits c then ((many fits).ways ⟨s, kept⟩).findSome? go else none := by
  simp only [Pattern.row, ways]
  split
  next => simp
  next => simp

theorem findSome?_row_nil : ((row fits).ways ⟨[], kept⟩).findSome? go = none := by
  simp [Pattern.row, ways]

/-- If it cannot go on before a character of the class, a row ends where there is none. -/
theorem findSome?_many_of_stuck (hgo : ∀ c rest, fits c = true → go ⟨c :: rest, kept⟩ = none) :
    ((many fits).ways ⟨s, kept⟩).findSome? go = go ⟨s.dropWhile fits, kept⟩ := by
  induction s with
  | nil => exact findSome?_many_nil
  | cons c s ih =>
      rw [findSome?_many_cons]
      split
      next hc => rw [ih, hgo c s hc, Option.or_none, List.dropWhile_cons_of_pos hc]
      next hc => rw [List.dropWhile_cons_of_neg hc]

/-- It goes on from the end of a row, and from no later one. -/
theorem findSome?_many_eq_some {row rest : List Char} {a : α} (hrow : ∀ c ∈ row, fits c = true)
    (ha : go ⟨rest, kept⟩ = some a)
    (hlater : ∀ c more rest', rest = c :: (more ++ rest') → fits c = true →
      (∀ d ∈ more, fits d = true) → go ⟨rest', kept⟩ = none) :
    ((many fits).ways ⟨row ++ rest, kept⟩).findSome? go = some a := by
  induction row with
  | nil =>
      cases rest with
      | nil => rw [List.nil_append, findSome?_many_nil, ha]
      | cons c rest =>
          rw [List.nil_append, findSome?_many_cons, ha]
          split
          next hc =>
            have hnone : ((many fits).ways ⟨rest, kept⟩).findSome? go = none := by
              rw [List.findSome?_eq_none_iff]
              intro read hread
              obtain ⟨more, hmore, hall, rfl⟩ := mem_ways_many_iff.mp hread
              exact hlater c more read.rest (congrArg (c :: ·) hmore) hc hall
            rw [hnone, Option.none_or]
          next => rfl
  | cons c row ih =>
      obtain ⟨hc, hrow⟩ := List.forall_mem_cons.mp hrow
      rw [List.cons_append, findSome?_many_cons, if_pos hc, ih hrow, Option.some_or]

end Order

end Pattern

end Breakpoints.Text
