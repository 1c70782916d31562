import Breakpoints.Proofs.Filter

/-!
What a filter means.  A text is read as a list of patterns exactly if its pieces are patterns with
no star inside, and the list accepts the names that one of the pieces means as a glob.
-/

namespace Breakpoints

/-- What a pattern with stars means: a star stands for any row of characters, also an empty one, and
every other character for itself. -/
inductive Glob : List Char → List Char → Prop where
  | nil : Glob [] []
  | char {c : Char} {pattern s : List Char} :
      c ≠ '*' → Glob pattern s → Glob (c :: pattern) (c :: s)
  | star {pattern s : List Char} (skipped : List Char) :
      Glob pattern s → Glob ('*' :: pattern) (skipped ++ s)

namespace Glob

variable {front pattern s : List Char}

theorem nil_iff : Glob [] s ↔ s = [] := by
  constructor
  · rintro ⟨⟩
    rfl
  · rintro rfl
    exact .nil

theorem star_iff :
    Glob ('*' :: pattern) s ↔ ∃ skipped rest, s = skipped ++ rest ∧ Glob pattern rest := by
  constructor
  · intro h
    cases h with
    | char hplain _ => exact absurd rfl hplain
    | star skipped hrest => exact ⟨skipped, _, rfl, hrest⟩
  · rintro ⟨skipped, rest, rfl, hrest⟩
    exact .star skipped hrest

/-- What has no star in it stands for itself. -/
theorem append_iff (hplain : '*' ∉ front) :
    Glob (front ++ pattern) s ↔ ∃ rest, s = front ++ rest ∧ Glob pattern rest := by
  induction front generalizing s with
  | nil => simp
  | cons c front ih =>
      rw [List.mem_cons, not_or] at hplain
      constructor
      · intro h
        cases h with
        | char _ hlater =>
            obtain ⟨rest, rfl, hrest⟩ := (ih hplain.2).mp hlater
            exact ⟨rest, rfl, hrest⟩
        | star _ _ => exact absurd rfl hplain.1
      · rintro ⟨rest, rfl, hrest⟩
        exact .char (Ne.symm hplain.1) ((ih hplain.2).mpr ⟨rest, rfl, hrest⟩)

theorem plain_iff (hplain : '*' ∉ front) : Glob front s ↔ s = front := by
  have hwhole : Glob (front ++ []) s ↔ ∃ rest, s = front ++ rest ∧ Glob [] rest :=
    append_iff hplain
  simpa only [List.append_nil, nil_iff, exists_eq_right] using hwhole

theorem beginning_iff (hplain : '*' ∉ front) : Glob (front ++ ['*']) s ↔ front <+: s := by
  have hany : ∀ rest, Glob ['*'] rest := fun rest => star_iff.mpr ⟨rest, [], by simp, .nil⟩
  rw [append_iff hplain]
  constructor
  · rintro ⟨rest, rfl, -⟩
    exact List.prefix_append front rest
  · rintro ⟨rest, rfl⟩
    exact ⟨rest, rfl, hany rest⟩

theorem ending_iff (hplain : '*' ∉ pattern) : Glob ('*' :: pattern) s ↔ pattern <:+ s := by
  simp only [star_iff, plain_iff hplain]
  constructor
  · rintro ⟨skipped, rest, rfl, rfl⟩
    exact List.suffix_append skipped rest
  · rintro ⟨skipped, rfl⟩
    exact ⟨skipped, pattern, rfl, rfl⟩

end Glob

/-- At most one star, and that at an end. -/
def Starred (s : List Char) : Prop :=
  s.count '*' = 0 ∨ s.count '*' = 1 ∧ (s.head? = some '*' ∨ s.getLast? = some '*')

instance (s : List Char) : Decidable (Starred s) :=
  inferInstanceAs (Decidable (_ ∨ _))

namespace NamePattern

variable {s : List Char} {p : NamePattern}

/-- What can be read as a pattern. -/
theorem exists_form_iff : (∃ p, Form s p) ↔ s ≠ [] ∧ Starred s := by
  constructor
  · rintro ⟨p, hform⟩
    cases hform with
    | any => decide
    | exact hsome hplain => exact ⟨hsome, .inl (List.count_eq_zero.mpr hplain)⟩
    | startsWith _ hplain =>
        exact ⟨by simp, .inr ⟨count_concat_star_iff.mpr hplain, .inr List.getLast?_concat⟩⟩
    | endsWith _ hplain => exact ⟨by simp, .inr ⟨count_cons_star_iff.mpr hplain, .inl rfl⟩⟩
  · rintro ⟨hsome, hstarred⟩
    by_cases hany : s = ['*']
    · rw [hany]
      exact ⟨_, .any⟩
    rcases hstarred with hnone | ⟨hone, hhead | hlast⟩
    · exact ⟨_, .exact hsome (List.count_eq_zero.mp hnone)⟩
    · obtain ⟨tail, rfl⟩ := List.head?_eq_some_iff.mp hhead
      refine ⟨_, .endsWith ?_ (count_cons_star_iff.mp hone)⟩
      rintro rfl
      exact hany rfl
    · obtain ⟨head, rfl⟩ := List.getLast?_eq_some_iff.mp hlast
      refine ⟨_, .startsWith ?_ (count_concat_star_iff.mp hone)⟩
      rintro rfl
      exact hany rfl

theorem exists_forms_iff {globs : List (List Char)} :
    (∃ patterns, List.Forall₂ Form globs patterns) ↔
      ∀ glob ∈ globs, glob ≠ [] ∧ Starred glob := by
  induction globs with
  | nil => simp
  | cons glob globs ih =>
      rw [List.forall_mem_cons, ← ih, ← exists_form_iff]
      constructor
      · rintro ⟨_, hforms⟩
        obtain ⟨p, patterns, hfirst, hrest, -⟩ := List.forall₂_cons_left_iff.mp hforms
        exact ⟨⟨p, hfirst⟩, patterns, hrest⟩
      · rintro ⟨⟨p, hfirst⟩, patterns, hrest⟩
        exact ⟨p :: patterns, .cons hfirst hrest⟩

/-- A pattern accepts what it means as a glob. -/
theorem Form.accepts_iff (h : Form s p) (name : String) :
    p.accepts name = true ↔ Glob s name.toList := by
  cases h with
  | any =>
      have hall : Glob ['*'] name.toList ↔ [] <+: name.toList :=
        Glob.beginning_iff List.not_mem_nil
      simp [accepts, hall]
  | exact _ hplain =>
      rw [accepts, decide_eq_true_iff, Glob.plain_iff hplain, ← String.toList_inj,
        String.toList_ofList]
  | startsWith _ hplain =>
      rw [accepts, Glob.beginning_iff hplain, String.toList_ofList, List.isPrefixOf_iff_prefix]
  | endsWith _ hplain =>
      rw [accepts, Glob.ending_iff hplain, String.toList_ofList, List.isSuffixOf_iff_suffix]

end NamePattern

namespace FilterList

/-- The pieces of a text between commas, without the white space around them; blank ones do not
count. -/
def globs (text : String) : List (List Char) :=
  ((text.toList.splitOn ',').map Text.trim).filter (· ≠ [])

theorem globs_eq (text : String) :
    globs text = (pieces text).map fun piece => Text.trim piece.toList := by
  have hsome : (fun s => decide (s ≠ [])) ∘ Text.trim =
      fun piece => !(Text.trim piece).isEmpty := by
    funext piece
    rw [Function.comp_apply]
    cases Text.trim piece with
    | nil => rfl
    | cons c rest => rfl
  have htrim : (fun piece : String => Text.trim piece.toList) ∘ String.ofList = Text.trim := by
    funext piece
    rw [Function.comp_apply, String.toList_ofList]
  rw [globs, pieces, List.filter_map, List.map_map, hsome, htrim]

/-- The patterns of a list are read from the pieces of its text, each from one. -/
theorem read_iff_forms {text : String} {filters : FilterList} : read text = .ok filters ↔
    globs text ≠ [] ∧ List.Forall₂ NamePattern.Form (globs text) filters.patterns := by
  have hforms : (pieces text).mapM NamePattern.read = .ok filters.patterns ↔
      List.Forall₂ NamePattern.Form (globs text) filters.patterns := by
    simp only [mapM_eq_ok_iff, NamePattern.read_iff_form, globs_eq, List.forall₂_map_left_iff]
  rw [read_ok_iff, hforms, and_comm]
  refine and_congr_left fun h => not_congr ?_
  rw [← List.length_eq_zero_iff, ← List.length_eq_zero_iff, h.length_eq]

theorem any_accepts_iff {globs : List (List Char)} {patterns : List NamePattern}
    (h : List.Forall₂ NamePattern.Form globs patterns) (name : String) :
    patterns.any (·.accepts name) = true ↔ ∃ glob ∈ globs, Glob glob name.toList := by
  induction h with
  | nil => simp
  | cons hfirst _ ih =>
      rw [List.any_cons, Bool.or_eq_true, hfirst.accepts_iff, ih, List.exists_mem_cons_iff]

/-- A text is read as a list of patterns if it has a piece that is not blank, and no such piece has
a star but one at an end.  The list then accepts the names that one of the pieces means as a
glob. -/
theorem read_globs (text : String) :
    ((∃ filters, read text = .ok filters) ↔
      globs text ≠ [] ∧ ∀ glob ∈ globs text, Starred glob) ∧
    ∀ filters, read text = .ok filters →
      ∀ name, filters.accepts name = true ↔ ∃ glob ∈ globs text, Glob glob name.toList := by
  constructor
  · have hforms : (∃ filters, read text = .ok filters) ↔
        globs text ≠ [] ∧ ∃ patterns, List.Forall₂ NamePattern.Form (globs text) patterns := by
      simp only [read_iff_forms, exists_and_left]
      exact and_congr_right fun _ => ⟨fun ⟨l, h⟩ => ⟨_, h⟩, fun ⟨patterns, h⟩ => ⟨⟨patterns⟩, h⟩⟩
    rw [hforms, NamePattern.exists_forms_iff]
    refine and_congr_right fun _ => forall₂_congr fun glob hglob => ?_
    exact and_iff_right (of_decide_eq_true (List.mem_filter.mp hglob).2)
  · intro filters hread name
    exact any_accepts_iff (read_iff_forms.mp hread).2 name

/-- Stars at both ends of names, a blank piece, and white space around names and inside one. -/
theorem read_globs_mixed :
    let text := " java.* ,, *Test,main thread"
    ∃ filters, read text = .ok filters ∧
      filters.accepts "java.lang" = true ∧ filters.accepts "Test" = true ∧
        filters.accepts "main thread" = true ∧ filters.accepts "main" = false := by
  intro text
  have hglobs : globs text = ["java.*".toList, "*Test".toList, "main thread".toList] := by
    decide +kernel
  obtain ⟨hreads, haccepts⟩ := read_globs text
  rw [hglobs] at hreads haccepts
  obtain ⟨filters, hread⟩ := hreads.mpr (by decide)
  have hmeans := haccepts filters hread
  refine ⟨filters, hread, ?_, ?_, ?_, ?_⟩
  · have hfront : "java.".toList <+: "java.lang".toList := ⟨"lang".toList, rfl⟩
    exact (hmeans _).mpr ⟨"java.*".toList, by simp, (Glob.beginning_iff (by decide)).mpr hfront⟩
  · have hback : "Test".toList <:+ "Test".toList := List.suffix_refl _
    exact (hmeans _).mpr ⟨"*Test".toList, by simp, (Glob.ending_iff (by decide)).mpr hback⟩
  · refine (hmeans _).mpr ⟨"main thread".toList, by simp, ?_⟩
    exact (Glob.plain_iff (by decide)).mpr rfl
  · rw [Bool.eq_false_iff, ne_eq, hmeans]
    rintro ⟨glob, hglob, hmatch⟩
    simp only [List.mem_cons, List.not_mem_nil, or_false] at hglob
    rcases hglob with rfl | rfl | rfl
    · have hfront : "java.".toList <+: "main".toList :=
        (Glob.beginning_iff (by decide)).mp hmatch
      exact absurd hfront (by decide)
    · have hback : "Test".toList <:+ "main".toList := (Glob.ending_iff (by decide)).mp hmatch
      exact absurd hback (by decide)
    · have hsame := (Glob.plain_iff (by decide)).mp hmatch
      exact absurd hsame (by decide)

end FilterList

end Breakpoints
