import Breakpoints.Proofs.Spec.Prefix

/-!
Method specifications read back from their texts.  The text of a method puts a dot between the
class and the method and a comma and a blank between two types.  It names its class, so the current
location does not matter any more.
-/

namespace Breakpoints

namespace Spec

variable {raw : String} {current : Option CurrentLocation} {spec : MethodSpec}

/-- A text is read as a method when its trimmed form is: what looks like a line text is no method
text. -/
theorem read_eq_method_iff : read raw current = .ok (.method spec) ↔
    readMethod (Text.trim raw.toList) current = .ok (.method spec) := by
  rw [read_eq]
  cases hline : splitLine? (Text.trim raw.toList) with
  | none => rfl
  | some parts =>
      have hform := splitLine?_sound hline
      constructor
      · intro h
        obtain ⟨-, path, key, -, -, hspec⟩ := (readLine_eq_ok_iff hform.digits).mp h
        cases hspec
      · intro h
        exact absurd h (hform.readMethod_ne_ok current _)

/-- A type that can stand in a list of types and be found there again. -/
structure TypeForm (s : List Char) : Prop where
  nonempty : s ≠ []
  trimmed : Text.Trimmed s
  undivided : ',' ∉ s
  flat : Flat s

/-- The types in a list without parentheses have this form. -/
theorem ParameterForm.typeForm {arguments : Option (List Char)} {parameters : ParameterFilter}
    (h : ParameterForm arguments parameters)
    (hflat : ∀ content, arguments = some content → Flat content) :
    ∀ type ∈ parameters.types, TypeForm type.toList := by
  cases h with
  | absent => simp [ParameterFilter.types]
  | blank _ => simp [ParameterFilter.types]
  | @listed content _ hpieces =>
      intro type htype
      obtain ⟨piece, hpiece, rfl⟩ := List.mem_map.mp htype
      have hkept : ∀ c ∈ Text.trim piece, c ∈ content :=
        fun c hc => Text.mem_of_mem_splitOn hpiece (Text.mem_of_mem_trim hc)
      obtain ⟨hopen, hclose⟩ := hflat content rfl
      rw [String.toList_ofList]
      exact {
        nonempty := hpieces piece hpiece
        trimmed := Text.trim_trimmed piece
        undivided := fun hmem => Text.not_mem_of_mem_splitOn hpiece (Text.mem_of_mem_trim hmem)
        flat := ⟨fun hmem => hopen (hkept _ hmem), fun hmem => hclose (hkept _ hmem)⟩ }

theorem CallForm.flat {s head content : List Char} {arguments : Option (List Char)}
    (h : CallForm s head arguments) (hsome : arguments = some content) : Flat content := by
  cases h with
  | plain _ => cases hsome
  | call _ _ hcontent =>
      cases hsome
      exact hcontent

/-- The characters of a list of types as it is printed. -/
def typeList (types : List String) : List Char :=
  [',', ' '].intercalate (types.map String.toList)

theorem typeList_cons (first : String) (rest : List String) : typeList (first :: rest) =
    [','].intercalate (first.toList :: rest.map fun type => ' ' :: type.toList) := by
  rw [typeList, List.map_cons, Text.intercalate_blank, List.map_map]
  rfl

section TypeList

variable {types : List String} (h : ∀ type ∈ types, TypeForm type.toList)

include h

/-- The printed types are the pieces between the commas. -/
theorem splitOn_typeList (hsome : types ≠ []) :
    ((typeList types).splitOn ',').map Text.trim = types.map String.toList := by
  obtain ⟨first, rest, rfl⟩ := List.exists_cons_of_ne_nil hsome
  obtain ⟨hfirst, hrest⟩ := List.forall_mem_cons.mp h
  have hpieces : ∀ piece ∈ first.toList :: rest.map (fun type => ' ' :: type.toList),
      ',' ∉ piece := by
    refine List.forall_mem_cons.mpr ⟨hfirst.undivided, ?_⟩
    rw [List.forall_mem_map]
    intro type htype
    simp [(hrest type htype).undivided]
  rw [typeList_cons, List.splitOn_intercalate _ hpieces (List.cons_ne_nil _ _), List.map_cons,
    List.map_map, List.map_cons, hfirst.trimmed.trim_eq]
  congr 1
  apply List.map_congr_left
  intro type htype
  exact (Text.trim_blank_cons _).trans (hrest type htype).trimmed.trim_eq

theorem flat_typeList : Flat (typeList types) := by
  have hmem : ∀ c ∈ typeList types, c ∈ [',', ' '] ∨ ∃ type ∈ types, c ∈ type.toList := by
    intro c hc
    rcases Text.mem_of_mem_intercalate hc with hdivider | ⟨piece, hpiece, hin⟩
    · exact .inl hdivider
    · obtain ⟨type, htype, rfl⟩ := List.mem_map.mp hpiece
      exact .inr ⟨type, htype, hin⟩
  constructor
  · intro hopen
    rcases hmem _ hopen with hdivider | ⟨type, htype, hin⟩
    · contradiction
    · exact (h type htype).flat.1 hin
  · intro hclose
    rcases hmem _ hclose with hdivider | ⟨type, htype, hin⟩
    · contradiction
    · exact (h type htype).flat.2 hin

/-- The printed list means the types. -/
theorem parameterForm_typeList : ParameterForm (some (typeList types)) (.exact types) := by
  by_cases hnone : types = []
  · subst hnone
    exact .blank rfl
  · have hsplit := splitOn_typeList h hnone
    have hpieces : ∀ piece ∈ (typeList types).splitOn ',', Text.trim piece ≠ [] := by
      intro piece hpiece
      have htrim : Text.trim piece ∈ types.map String.toList :=
        hsplit ▸ List.mem_map_of_mem hpiece
      obtain ⟨type, htype, heq⟩ := List.mem_map.mp htrim
      exact heq ▸ (h type htype).nonempty
    have hblank : Text.trim (typeList types) ≠ [] := by
      obtain ⟨piece, hpiece⟩ :=
        List.exists_mem_of_ne_nil _ (List.splitOn_ne_nil ',' (typeList types))
      obtain ⟨c, hc, hplain⟩ := Text.trim_ne_nil_iff.mp (hpieces piece hpiece)
      exact Text.trim_ne_nil_iff.mpr ⟨c, Text.mem_of_mem_splitOn hpiece hc, hplain⟩
    have htypes : ((typeList types).splitOn ',').map
        (fun piece => String.ofList (Text.trim piece)) = types := by
      simpa [Function.comp_def] using congrArg (List.map String.ofList) hsplit
    have hform := ParameterForm.listed hblank hpieces
    rwa [htypes] at hform

end TypeList

end Spec

namespace MethodSpec

open Spec

/-- What a specification that was read from a text consists of. -/
structure Printable (spec : MethodSpec) : Prop where
  className : Name.checkClass spec.className = .ok ()
  methodName : Name.checkMember spec.methodName = .ok ()
  types : ∀ type ∈ spec.parameters.types, TypeForm type.toList

theorem Printable.of_read {raw : String} {current : Option CurrentLocation} {spec : MethodSpec}
    (h : Spec.read raw current = .ok (.method spec)) : spec.Printable := by
  obtain ⟨head, member, arguments, owner, className, parameters, hcall, -, -, hclass, hmember,
    hparameters, hspec⟩ := readMethod_eq_ok_iff.mp (read_eq_method_iff.mp h)
  cases hspec
  exact ⟨hclass, hmember, hparameters.typeForm fun _ hsome => hcall.flat hsome⟩

/-- The class and the method as they are printed. -/
def head (spec : MethodSpec) : List Char :=
  spec.className.toList ++ '.' :: spec.methodName.toList

/-- What is printed between the parentheses, if there are any. -/
def arguments (spec : MethodSpec) : Option (List Char) :=
  match spec.parameters with
  | .any => none
  | .exact types => some (typeList types)

theorem toList_text (spec : MethodSpec) : spec.text.toList =
    match spec.arguments with
    | none => spec.head
    | some content => spec.head ++ '(' :: (content ++ [')']) := by
  rw [text, arguments, head]
  cases spec.parameters with
  | any => simp
  | exact types => simp [typeList, String.toList_intercalate]

namespace Printable

variable {spec : MethodSpec} (h : spec.Printable)

include h

theorem isClassName : Name.isClassName spec.className.toList = true :=
  Name.checkClass_eq_ok_iff.mp h.className

theorem isMemberName : Name.isMemberName (String.ofList spec.methodName.toList) = true := by
  rw [String.ofList_toList]
  exact Name.checkMember_eq_ok_iff.mp h.methodName

/-- Only names and the dot between them stand in the head. -/
theorem not_mem_head {c : Char} (hc : Name.continuesIdentifier c = false) (hdot : c ≠ '.')
    (hopen : c ≠ '<') (hclose : c ≠ '>') : c ∉ spec.head := by
  rw [head, List.mem_append, List.mem_cons]
  rintro (hclass | heq | hmember)
  · exact Name.not_mem_of_isClassName h.isClassName hc hdot hclass
  · exact hdot heq
  · exact Name.not_mem_of_isMemberName h.isMemberName hc hopen hclose hmember

theorem flat_head : Flat spec.head :=
  ⟨h.not_mem_head rfl (by decide) (by decide) (by decide),
    h.not_mem_head rfl (by decide) (by decide) (by decide)⟩

theorem callForm : CallForm spec.text.toList spec.head spec.arguments := by
  rw [toList_text]
  cases harguments : spec.arguments with
  | none => exact .plain h.flat_head
  | some content =>
      refine .call rfl h.flat_head ?_
      rw [arguments] at harguments
      split at harguments
      · cases harguments
      next types htypes =>
        cases harguments
        exact flat_typeList (by simpa [htypes, ParameterFilter.types] using h.types)

theorem memberForm :
    MemberForm spec.head (some spec.className.toList) spec.methodName.toList := by
  have hmethod : Name.checkMember (String.ofList spec.methodName.toList) = .ok () := by
    rw [String.ofList_toList]
    exact h.methodName
  obtain ⟨hcolon, hdot⟩ := not_mem_of_checkMember hmethod
  exact .qualified rfl (.inr rfl) hcolon hdot

theorem parameterForm : ParameterForm spec.arguments spec.parameters := by
  rw [arguments]
  cases hparameters : spec.parameters with
  | any => exact .absent
  | exact types =>
      exact parameterForm_typeList (by simpa [hparameters, ParameterFilter.types] using h.types)

/-- There is no white space around the text. -/
theorem trimmed_text : Text.Trimmed spec.text.toList := by
  have hhead : Text.Trimmed spec.head := by
    refine .of_plain fun c hc => ?_
    by_contra hblank
    rw [Bool.not_eq_false] at hblank
    have hnot : c ≠ '.' ∧ c ≠ '<' ∧ c ≠ '>' := by
      refine ⟨?_, ?_, ?_⟩ <;> (rintro rfl; contradiction)
    exact h.not_mem_head (Name.continuesIdentifier_of_isBlank hblank) hnot.1 hnot.2.1 hnot.2.2 hc
  have hsome : spec.head ≠ [] := by simp [head]
  rw [toList_text]
  split
  next => exact hhead
  next content _ =>
    refine hhead.append ⟨?_, ?_⟩ hsome (List.cons_ne_nil _ _)
    · rintro c ⟨⟩
      rfl
    · intro c hc
      rw [← List.cons_append, List.getLast?_concat] at hc
      cases hc
      rfl

/-- A printable specification is what its text asks for, wherever one is. -/
theorem read_text (current : Option CurrentLocation) :
    Spec.read spec.text current = .ok (.method spec) := by
  rw [read_eq_method_iff, h.trimmed_text.trim_eq, readMethod_eq_ok_iff]
  refine ⟨spec.head, spec.methodName.toList, spec.arguments, some spec.className.toList,
    spec.className, spec.parameters, h.callForm, h.memberForm, ?_, h.className, ?_, h.parameterForm,
    ?_⟩
  · have hnamed : OwnerClass current (some spec.className.toList)
        (String.ofList spec.className.toList) := .named
    rwa [String.ofList_toList] at hnamed
  · rw [String.ofList_toList]
    exact h.methodName
  · rw [String.ofList_toList]

end Printable

end MethodSpec

namespace Spec

/-- A method that a text asks for is also what the text of the method asks for, and there the
current location makes no difference. -/
theorem read_method_text {raw : String} {current : Option CurrentLocation} {spec : MethodSpec}
    (h : read raw current = .ok (.method spec)) (other : Option CurrentLocation) :
    read (method spec).text other = .ok (.method spec) :=
  (MethodSpec.Printable.of_read h).read_text other

/-- An initialiser of the current class, with white space in and around its list of types. -/
theorem read_method_text_here :
    let here : CurrentLocation := ⟨"a/b/Map.java", 7, "a.b.Map$Entry"⟩
    let spec : MethodSpec := ⟨"a.b.Map$Entry", "<init>", .exact ["unsigned int", "String[]"]⟩
    read "  <init>( unsigned int ,String[])  " (some here) = .ok (.method spec) ∧
      (method spec).text = "a.b.Map$Entry.<init>(unsigned int, String[])" ∧
        read "a.b.Map$Entry.<init>(unsigned int, String[])" none = .ok (.method spec) := by
  intro here spec
  have hread : read "  <init>( unsigned int ,String[])  " (some here) = .ok (.method spec) := by
    decide
  have htext : (method spec).text = "a.b.Map$Entry.<init>(unsigned int, String[])" := by decide
  exact ⟨hread, htext, htext ▸ read_method_text hread none⟩

end Spec

end Breakpoints
