import Breakpoints.Name.Pattern
import Breakpoints.Proofs.Attempt
import Breakpoints.Proofs.Text

/-!
Filters and their texts.  What was read from a text reads the same again from its own text.
-/

namespace Breakpoints

namespace NamePattern

/-- White space around a pattern counts for nothing. -/
theorem read_congr {text text' : String}
    (h : Text.trim text.toList = Text.trim text'.toList) : read text = read text' := by
  simp only [read, h]

/-- How patterns are written: with no star, or with one at an end. -/
inductive Form : List Char → NamePattern → Prop where
  | any : Form ['*'] .any
  | exact {s : List Char} : s ≠ [] → '*' ∉ s → Form s (.exact (String.ofList s))
  | startsWith {head : List Char} :
      head ≠ [] → '*' ∉ head → Form (head ++ ['*']) (.startsWith (String.ofList head))
  | endsWith {tail : List Char} :
      tail ≠ [] → '*' ∉ tail → Form ('*' :: tail) (.endsWith (String.ofList tail))

theorem count_concat_star_iff {head : List Char} :
    (head ++ ['*']).count '*' = 1 ↔ '*' ∉ head := by
  rw [List.count_append, List.count_singleton_self, Nat.add_eq_right, List.count_eq_zero]

theorem count_cons_star_iff {tail : List Char} : ('*' :: tail).count '*' = 1 ↔ '*' ∉ tail := by
  rw [List.count_cons_self, Nat.add_eq_right, List.count_eq_zero]

theorem form_of_read {written : String} {p : NamePattern} (h : read written = .ok p) :
    Form (Text.trim written.toList) p := by
  simp only [read] at h
  generalize Text.trim written.toList = s at h ⊢
  split at h
  · contradiction
  next hsome =>
    split at h
    next hany =>
      cases h
      rw [hany]
      exact .any
    next hother =>
      split at h
      next hnone =>
        cases h
        exact .exact hsome (List.count_eq_zero.mp hnone)
      next hone =>
        split at h
        next hlast =>
          cases h
          obtain ⟨head, rfl⟩ := List.getLast?_eq_some_iff.mp hlast
          rw [List.dropLast_concat]
          refine .startsWith ?_ (count_concat_star_iff.mp hone)
          rintro rfl
          exact hother rfl
        next =>
          split at h
          next hhead =>
            cases h
            obtain ⟨tail, rfl⟩ := List.head?_eq_some_iff.mp hhead
            refine .endsWith ?_ (count_cons_star_iff.mp hone)
            rintro rfl
            exact hother rfl
          next => contradiction
      next => contradiction

theorem Form.read {written : String} {p : NamePattern}
    (h : Form (Text.trim written.toList) p) : NamePattern.read written = .ok p := by
  simp only [NamePattern.read]
  generalize Text.trim written.toList = s at h ⊢
  cases h with
  | any => rfl
  | exact hsome hplain =>
      have hother : s ≠ ['*'] := by
        rintro rfl
        exact hplain List.mem_cons_self
      rw [if_neg hsome, if_neg hother, List.count_eq_zero.mpr hplain]
      rfl
  | startsWith hsome hplain =>
      simp [hsome, count_concat_star_iff.mpr hplain]
  | endsWith hsome hplain =>
      rename_i tail
      have hlast : ('*' :: tail).getLast? ≠ some '*' := by
        rw [← List.singleton_append, List.getLast?_append_of_ne_nil _ hsome]
        exact fun h => hplain (List.mem_of_getLast? h)
      simp [hsome, count_cons_star_iff.mpr hplain, hlast]

/-- The reader accepts the patterns of this form. -/
theorem read_iff_form {written : String} {p : NamePattern} :
    read written = .ok p ↔ Form (Text.trim written.toList) p :=
  ⟨form_of_read, Form.read⟩

/-- The text of a pattern is what it was read from, without the white space around it. -/
theorem toList_text_of_read {written : String} {p : NamePattern} (h : read written = .ok p) :
    p.text.toList = Text.trim written.toList ∧ Text.trim written.toList ≠ [] := by
  have hform := form_of_read h
  generalize Text.trim written.toList = s at hform ⊢
  cases hform with
  | any => exact ⟨rfl, List.cons_ne_nil _ _⟩
  | exact hsome _ => exact ⟨String.toList_ofList, hsome⟩
  | startsWith _ _ => simp [text, String.toList_append]
  | endsWith _ _ => simp [text, String.toList_append]

/-- A pattern as it stands in a list: its text reads as itself, and it is found between commas. -/
structure Listed (p : NamePattern) : Prop where
  read_text : read p.text = .ok p
  trimmed : Text.Trimmed p.text.toList
  nonempty : p.text.toList ≠ []
  comma : ',' ∉ p.text.toList

theorem Listed.of_read {written : String} {p : NamePattern} (h : read written = .ok p)
    (hcomma : ',' ∉ written.toList) : p.Listed := by
  obtain ⟨htext, hsome⟩ := toList_text_of_read h
  constructor
  · rw [← h]
    apply read_congr
    rw [htext, Text.trim_trim]
  · rw [htext]
    exact Text.trim_trimmed written.toList
  · rw [htext]
    exact hsome
  · rw [htext]
    exact fun hmem => hcomma (Text.mem_of_mem_trim hmem)

end NamePattern

namespace FilterList

/-- No commas stand in the pieces between commas. -/
theorem not_mem_of_mem_pieces {text piece : String} (h : piece ∈ pieces text) :
    ',' ∉ piece.toList := by
  obtain ⟨chars, hchars, rfl⟩ := List.mem_map.mp h
  rw [String.toList_ofList]
  exact Text.not_mem_of_mem_splitOn (List.mem_of_mem_filter hchars)

/-- A list is read pattern by pattern, and needs one. -/
theorem read_ok_iff {text : String} {filters : FilterList} : read text = .ok filters ↔
    (pieces text).mapM NamePattern.read = .ok filters.patterns ∧ filters.patterns ≠ [] := by
  rw [read]
  split
  next e hfailed => simp [hfailed]
  next hblank => simp [hblank, eq_comm]
  next patterns hsome hpatterns =>
    rw [hpatterns, Except.ok.injEq, Except.ok.injEq]
    constructor
    · rintro rfl
      exact ⟨rfl, hsome⟩
    · rintro ⟨rfl, -⟩
      rfl

/-- A list that was read from a text. -/
structure Readable (filters : FilterList) : Prop where
  listed : ∀ p ∈ filters.patterns, p.Listed
  nonempty : filters.patterns ≠ []

theorem Readable.of_read {text : String} {filters : FilterList} (h : read text = .ok filters) :
    filters.Readable := by
  obtain ⟨hpatterns, hsome⟩ := read_ok_iff.mp h
  refine ⟨fun p hp => ?_, hsome⟩
  obtain ⟨piece, hpiece, hread⟩ := exists_of_mem_mapM hpatterns hp
  exact .of_read hread (not_mem_of_mem_pieces hpiece)

variable {filters : FilterList}

theorem toList_text (filters : FilterList) : filters.text.toList =
    [','].intercalate (filters.patterns.map fun p => p.text.toList) := by
  rw [text, String.toList_intercalate, List.map_map]
  rfl

/-- The pieces of the text of a list are the texts of its patterns. -/
theorem Readable.pieces_text (h : filters.Readable) :
    pieces filters.text = filters.patterns.map (·.text) := by
  have hsplit : filters.text.toList.splitOn ',' = filters.patterns.map fun p => p.text.toList := by
    rw [toList_text]
    apply List.splitOn_intercalate
    · intro piece hpiece
      obtain ⟨p, hp, rfl⟩ := List.mem_map.mp hpiece
      exact (h.listed p hp).comma
    · simpa using h.nonempty
  have hkept : (filters.patterns.map fun p => p.text.toList).filter
      (fun piece => !(Text.trim piece).isEmpty) = filters.patterns.map fun p => p.text.toList := by
    rw [List.filter_eq_self]
    intro piece hpiece
    obtain ⟨p, hp, rfl⟩ := List.mem_map.mp hpiece
    have hlisted := h.listed p hp
    simpa [hlisted.trimmed.trim_eq] using hlisted.nonempty
  rw [pieces, hsplit, hkept, List.map_map]
  refine List.map_congr_left fun p _ => ?_
  exact String.ofList_toList

theorem Readable.read_text (h : filters.Readable) : read filters.text = .ok filters := by
  rw [read_ok_iff, h.pieces_text, mapM_eq_ok_iff, List.forall₂_map_left_iff, List.forall₂_same]
  exact ⟨fun p hp => (h.listed p hp).read_text, h.nonempty⟩

/-- The text of a list has no white space at its ends, and is not blank. -/
theorem Readable.trim_text (h : filters.Readable) :
    Text.trim filters.text.toList = filters.text.toList ∧ filters.text.toList ≠ [] := by
  rw [toList_text]
  constructor
  · apply Text.Trimmed.trim_eq
    apply Text.Trimmed.intercalate
    intro piece hpiece
    obtain ⟨p, hp, rfl⟩ := List.mem_map.mp hpiece
    exact ⟨(h.listed p hp).trimmed, (h.listed p hp).nonempty⟩
  · cases hpatterns : filters.patterns with
    | nil => exact absurd hpatterns h.nonempty
    | cons first rest =>
        have hfirst : first ∈ filters.patterns := hpatterns ▸ List.mem_cons_self
        exact Text.intercalate_ne_nil (h.listed first hfirst).nonempty

/-- The text of the list that a text is read as. -/
def respell (text : String) : Except Failure String :=
  (read text).map (·.text)

/-- A text that was spelled as its list spells it is not changed any more. -/
theorem respell_respell (text : String) : (respell text).bind respell = respell text := by
  cases hread : read text with
  | error e => simp [respell, hread, Except.map, Except.bind]
  | ok filters =>
      simp [respell, hread, (Readable.of_read hread).read_text, Except.map, Except.bind]

/-- What an optional list may be replaced by: a list is kept, or another is read from a text. -/
def Renewed (old new : Option FilterList) : Prop :=
  new = old ∨ ∃ text, readOptional text = .ok new

theorem Renewed.refl (filters : Option FilterList) : Renewed filters filters :=
  .inl rfl

theorem Renewed.trans {old new newer : Option FilterList} (h : Renewed old new)
    (h' : Renewed new newer) : Renewed old newer := by
  rcases h' with rfl | hread
  · exact h
  · exact .inr hread

/-- No list, or one that was read from a text. -/
def Kept (filters : Option FilterList) : Prop :=
  ∀ l, filters = some l → l.Readable

theorem Kept.none : Kept none := by
  rintro l ⟨⟩

theorem Kept.of_readOptional {text : Option String} {filters : Option FilterList}
    (h : readOptional text = .ok filters) : Kept filters := by
  rintro l rfl
  cases text with
  | none => simp [readOptional] at h
  | some written =>
      simp only [readOptional] at h
      split at h
      · simp at h
      next =>
        cases hread : read (Text.trimmed written) with
        | error e => simp [hread, Except.map] at h
        | ok found =>
            simp only [hread, Except.map, Except.ok.injEq, Option.some.injEq] at h
            exact .of_read (h ▸ hread)

theorem Kept.renewed {old new : Option FilterList} (hold : Kept old) (h : Renewed old new) :
    Kept new := by
  rcases h with rfl | ⟨text, hread⟩
  · exact hold
  · exact .of_readOptional hread

/-- An optional list reads again as what it is. -/
theorem Kept.readOptional_text {filters : Option FilterList} (h : Kept filters) :
    readOptional (filters.map (·.text)) = .ok filters := by
  cases filters with
  | none => rfl
  | some l =>
      have hl : l.Readable := h l rfl
      obtain ⟨htrim, hsome⟩ := hl.trim_text
      rw [Option.map_some, readOptional, htrim, if_neg hsome, Text.trimmed, htrim,
        String.ofList_toList, hl.read_text]
      rfl

/-- The text of an optional list as the list itself would be written. -/
def Written (text : Option String) : Prop :=
  ∃ filters, readOptional text = .ok filters ∧ filters.map (·.text) = text

theorem Kept.written {filters : Option FilterList} (h : Kept filters) :
    Written (filters.map (·.text)) :=
  ⟨filters, h.readOptional_text, rfl⟩

end FilterList

end Breakpoints
