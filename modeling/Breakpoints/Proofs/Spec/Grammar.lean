import Breakpoints.Proofs.Name
import Breakpoints.Proofs.Numeral
import Breakpoints.Proofs.SourceKey
import Breakpoints.Proofs.Spec.Division

/-!
The grammar of breakpoint texts, set down without a way to read them, and the proof that the reader
accepts exactly the texts of the grammar and gives each its meaning.
-/

namespace Breakpoints.Spec

/-- A text that ends in a line number: digits alone, or something, a colon and digits. -/
inductive LineForm (s : List Char) : Option (List Char) → List Char → Prop where
  | bare : Text.Digits s → LineForm s none s
  | qualified {owner digits : List Char} :
      s = owner ++ ':' :: digits → owner ≠ [] → Text.Digits digits →
        LineForm s (some owner) digits

/-- The path of the file that a line text names: that of the current file, a path that is written
out, or that of the file of a class. -/
inductive LineFile (current : Option CurrentLocation) : Option (List Char) → String → Prop where
  | here {location : CurrentLocation} :
      current = some location → LineFile current none location.sourcePath
  | path {owner : List Char} :
      '/' ∈ owner ∨ '\\' ∈ owner → LineFile current (some owner) (String.ofList owner)
  | ofClass {owner : List Char} {path : String} :
      '/' ∉ owner → '\\' ∉ owner → Name.sourcePath (String.ofList owner) = .ok path →
        LineFile current (some owner) path

/-- A head, or a head and a list of parameters in parentheses. -/
inductive CallForm (s : List Char) : List Char → Option (List Char) → Prop where
  | plain : Flat s → CallForm s s none
  | call {head content : List Char} :
      s = head ++ '(' :: (content ++ [')']) → Flat head → Flat content →
        CallForm s head (some content)

/-- A head is divided at its last colon or dot, if it has one. -/
inductive MemberForm (head : List Char) : Option (List Char) → List Char → Prop where
  | bare : ':' ∉ head → '.' ∉ head → MemberForm head none head
  | qualified {owner member : List Char} {separator : Char} :
      head = owner ++ separator :: member → separator = ':' ∨ separator = '.' → ':' ∉ member →
        '.' ∉ member → MemberForm head (some owner) member

/-- The class that a method text names; without one it is the current class. -/
inductive OwnerClass (current : Option CurrentLocation) : Option (List Char) → String → Prop where
  | here {location : CurrentLocation} :
      current = some location → OwnerClass current none location.className
  | named {owner : List Char} : OwnerClass current (some owner) (String.ofList owner)

/-- The types in a list of parameters: none in a blank list, otherwise one between any two
commas. -/
inductive ParameterForm : Option (List Char) → ParameterFilter → Prop where
  | absent : ParameterForm none .any
  | blank {content : List Char} : Text.trim content = [] → ParameterForm (some content) (.exact [])
  | listed {content : List Char} :
      Text.trim content ≠ [] → (∀ piece ∈ content.splitOn ',', Text.trim piece ≠ []) →
        ParameterForm (some content)
          (.exact ((content.splitOn ',').map fun piece => String.ofList (Text.trim piece)))

/-- What a trimmed text means.  Whatever has the form of a line text is one, and is no method text
even if it names no line. -/
inductive Denotes (current : Option CurrentLocation) (s : List Char) : Spec → Prop where
  | line {owner : Option (List Char)} {digits : List Char} {path : String} {key : SourceKey} :
      LineForm s owner digits → Text.decimal digits ≤ 0xFFFFFFFF →
        LineFile current owner path → SourceKey.ofPath path = .ok key →
          Denotes current s (.line ⟨key, none, "*", key.fileName, Text.decimal digits⟩)
  | method {head member : List Char} {arguments owner : Option (List Char)} {className : String}
      {parameters : ParameterFilter} :
      (∀ owner digits, ¬ LineForm s owner digits) → CallForm s head arguments →
        MemberForm head owner member → OwnerClass current owner className →
          Name.checkClass className = .ok () → Name.checkMember (String.ofList member) = .ok () →
            ParameterForm arguments parameters →
              Denotes current s (.method ⟨className, String.ofList member, parameters⟩)

section Line

theorem splitLine?_sound {s digits : List Char} {owner : Option (List Char)}
    (h : splitLine? s = some (owner, digits)) : LineForm s owner digits := by
  rw [splitLine?] at h
  split at h
  next hline =>
    rw [Bool.or_eq_true, isSome_bareLine_iff, isSome_qualifiedLine_iff] at hline
    rcases hline with hbare | ⟨head, number, hs, hsome, -, hnumber⟩
    · rw [splitLast_of_not_mem (hbare.not_mem rfl)] at h
      cases h
      exact .bare hbare
    · rw [splitLast_eq hs (hnumber.not_mem rfl)] at h
      cases h
      exact .qualified hs hsome hnumber
  next => contradiction

/-- The reader takes a text of this form for a line text, unless there is a line break in what
stands before the digits. -/
theorem LineForm.splitLine? {s digits : List Char} {owner : Option (List Char)}
    (h : LineForm s owner digits) : Spec.splitLine? s = some (owner, digits) ∨
      Spec.splitLine? s = none ∧ ∃ head, owner = some head ∧ '\n' ∈ head := by
  cases h with
  | bare hdigits =>
      rw [Spec.splitLine?, isSome_bareLine_iff.mpr hdigits, splitLast_of_not_mem (hdigits.not_mem rfl)]
      exact .inl rfl
  | qualified hs howner hdigits =>
      rename_i owner
      have hlast := splitLast_eq hs (hdigits.not_mem rfl)
      by_cases hbreak : '\n' ∈ owner
      · refine .inr ⟨?_, owner, rfl, hbreak⟩
        rw [Spec.splitLine?, if_neg]
        rw [Bool.or_eq_true, isSome_bareLine_iff, isSome_qualifiedLine_iff]
        rintro (hbare | ⟨head, number, hs', -, hplain, hnumber⟩)
        · exact hbare.not_mem rfl (show ':' ∈ s by simp [hs])
        · have hsame := splitLast_eq hs' (hnumber.not_mem rfl)
          rw [hlast] at hsame
          cases hsame
          exact hplain hbreak
      · left
        rw [Spec.splitLine?, isSome_qualifiedLine_iff.mpr ⟨_, _, hs, howner, hbreak, hdigits⟩,
          Bool.or_true, if_pos rfl, hlast]

theorem lineFile_eq_ok_iff {owner : Option (List Char)} {current : Option CurrentLocation}
    {path : String} : lineFile owner current = .ok path ↔ LineFile current owner path := by
  constructor
  · intro h
    cases owner with
    | none =>
        cases current with
        | none => cases h
        | some location =>
            cases h
            exact .here rfl
    | some owner =>
        simp only [lineFile, Bool.or_eq_true, List.contains_iff_mem] at h
        split at h
        next hslash =>
          cases h
          exact .path hslash
        next hslash =>
          rw [not_or] at hslash
          exact .ofClass hslash.1 hslash.2 h
  · intro h
    cases h with
    | here hcurrent => rw [hcurrent, lineFile]
    | path hslash => simp only [lineFile, Bool.or_eq_true, List.contains_iff_mem, if_pos hslash]
    | ofClass hslash hback hpath => simp [lineFile, hslash, hback, hpath]

/-- A line text is read when its number is not too large and it names a file. -/
theorem readLine_eq_ok_iff {owner : Option (List Char)} {digits : List Char}
    {current : Option CurrentLocation} {spec : Spec} (hdigits : Text.Digits digits) :
    readLine owner digits current = .ok spec ↔
      Text.decimal digits ≤ 0xFFFFFFFF ∧ ∃ path key, LineFile current owner path ∧
        SourceKey.ofPath path = .ok key ∧
        spec = .line ⟨key, none, "*", key.fileName, Text.decimal digits⟩ := by
  rw [readLine]
  cases hread : Text.readNumeral? Text.maxWord digits with
  | none =>
      refine iff_of_false (fun h => by cases h) ?_
      rintro ⟨hle, -⟩
      rw [Text.maxWord, Text.readNumeral?_eq_some_iff.mpr ⟨hdigits, rfl, hle⟩] at hread
      contradiction
  | some number =>
      obtain ⟨-, rfl, hle⟩ := Text.readNumeral?_eq_some_iff.mp hread
      constructor
      · intro h
        dsimp only at h
        split at h
        · cases h
        next path hpath =>
          split at h
          · cases h
          next key hkey =>
            cases h
            exact ⟨hle, path, key, lineFile_eq_ok_iff.mp hpath, hkey, rfl⟩
      · rintro ⟨-, path, key, hpath, hkey, rfl⟩
        simp only [lineFile_eq_ok_iff.mpr hpath, hkey]
        rfl

end Line

section LineBreak

/-- A path with a line break is no key. -/
theorem not_lineFile_of_break {head : List Char} (hbreak : '\n' ∈ head)
    {current : Option CurrentLocation} {path : String} {key : SourceKey}
    (hpath : LineFile current (some head) path) : SourceKey.ofPath path ≠ .ok key := by
  intro hkey
  cases hpath with
  | path _ =>
      simp only [SourceKey.ofPath, String.toList_ofList] at hkey
      split at hkey
      next hform =>
        simp only [SourceKey.isKeyPath, Bool.and_eq_true, List.all_eq_true] at hform
        have hkept : '\n' ∈ SourceKey.normalise head :=
          SourceKey.mem_normalise hbreak (by decide) (by decide) (by decide)
        have hplain := hform.2 '\n' hkept
        contradiction
      next => cases hkey
  | ofClass _ _ hclass =>
      rw [Name.sourcePath] at hclass
      split at hclass
      · cases hclass
      next hvalid =>
        rw [Name.checkClass_eq_ok_iff, String.toList_ofList] at hvalid
        exact Name.not_mem_of_isClassName hvalid rfl (by decide) hbreak

end LineBreak

section Method

theorem splitArguments?_sound {s head : List Char} {arguments : Option (List Char)}
    (h : splitArguments? s = some (head, arguments)) (hclosed : ')' ∉ head) :
    CallForm s head arguments := by
  rw [splitArguments?] at h
  split at h
  next front hspan =>
    cases h
    obtain ⟨rfl, hopen⟩ := Text.span_eq_nil_iff.mp hspan
    exact .plain ⟨fun hmem => by simpa using hopen _ hmem, hclosed⟩
  next front first rest hspan =>
    split at h
    next content hcontent =>
      cases h
      obtain ⟨rfl, hhead, hfirst⟩ := Text.span_eq_cons_iff.mp hspan
      obtain ⟨rfl, hflat, -⟩ := Text.span_eq_cons_iff.mp hcontent
      have heq : first = '(' := by simpa using hfirst
      subst heq
      refine .call rfl ⟨fun hmem => by simpa using hhead _ hmem, hclosed⟩ ⟨?_, ?_⟩
      · intro hmem
        simpa using hflat _ hmem
      · intro hmem
        simpa using hflat _ hmem
    next => cases h

theorem CallForm.splitArguments? {s head : List Char} {arguments : Option (List Char)}
    (h : CallForm s head arguments) : Spec.splitArguments? s = some (head, arguments) := by
  cases h with
  | plain hflat =>
      have hspan : s.span (· ≠ '(') = (s, []) := by
        refine Text.span_eq_nil_iff.mpr ⟨rfl, fun c hc => ?_⟩
        have hne : c ≠ '(' := fun heq => hflat.1 (heq ▸ hc)
        simpa using hne
      rw [Spec.splitArguments?, hspan]
  | call hs hhead hcontent =>
      rename_i content
      have hspan : s.span (· ≠ '(') = (head, '(' :: (content ++ [')'])) := by
        refine Text.span_eq_cons_iff.mpr ⟨hs, fun c hc => ?_, by simp⟩
        have hne : c ≠ '(' := fun heq => hhead.1 (heq ▸ hc)
        simpa using hne
      have hrest : (content ++ [')']).span (fun c => c ≠ '(' && c ≠ ')') = (content, [')']) := by
        refine Text.span_eq_cons_iff.mpr ⟨rfl, fun c hc => ?_, by simp⟩
        have hopen : c ≠ '(' := fun heq => hcontent.1 (heq ▸ hc)
        have hclose : c ≠ ')' := fun heq => hcontent.2 (heq ▸ hc)
        simp [hopen, hclose]
      rw [Spec.splitArguments?, hspan]
      dsimp only
      rw [hrest]
      rfl

theorem isSeparator_iff {c : Char} : isSeparator c = true ↔ c = ':' ∨ c = '.' := by
  rw [isSeparator, Bool.or_eq_true, decide_eq_true_iff, decide_eq_true_iff]

/-- There is no separator in a text without colons and dots. -/
theorem not_isSeparator_of_not_mem {s : List Char} (hcolon : ':' ∉ s) (hdot : '.' ∉ s) :
    ∀ c ∈ s, ¬ isSeparator c = true := by
  intro c hc hseparator
  rcases isSeparator_iff.mp hseparator with rfl | rfl
  · exact hcolon hc
  · exact hdot hc

theorem Divided.memberForm {head member : List Char} {owner : Option (List Char)}
    (h : Divided head owner member) (hcolon : ':' ∉ member) (hdot : '.' ∉ member) :
    MemberForm head owner member := by
  cases h with
  | whole _ => exact .bare hcolon hdot
  | parts hhead hseparator _ _ _ =>
      exact .qualified hhead (isSeparator_iff.mp hseparator) hcolon hdot

theorem MemberForm.divided {head member : List Char} {owner : Option (List Char)}
    (h : MemberForm head owner member) (howner : owner ≠ some []) (hmember : member ≠ []) :
    Divided head owner member := by
  cases h with
  | bare hcolon hdot =>
      refine .whole fun front c tail hhead hc => ?_
      exact absurd hc (not_isSeparator_of_not_mem hcolon hdot c (by simp [hhead]))
  | qualified hhead hseparator hcolon hdot =>
      refine .parts hhead (isSeparator_iff.mpr hseparator) (fun hnil => howner (hnil ▸ rfl)) hmember
        fun front c tail hfront hc => ?_
      exact absurd hc (not_isSeparator_of_not_mem hcolon hdot c (by simp [hfront]))

/-- A head is divided as its form says. -/
theorem MemberForm.splitMember {head member : List Char} {owner : Option (List Char)}
    (h : MemberForm head owner member) (howner : owner ≠ some []) (hmember : member ≠ []) :
    Spec.splitMember head = (owner, member) := by
  obtain ⟨hfirst, hsecond⟩ := (splitMember_divided head).unique (h.divided howner hmember)
  exact Prod.ext hfirst hsecond

theorem methodOwner_eq_ok_iff {owner : Option (List Char)} {current : Option CurrentLocation}
    {className : String} :
    methodOwner owner current = .ok className ↔ OwnerClass current owner className := by
  constructor
  · intro h
    cases owner with
    | none =>
        cases current with
        | none => cases h
        | some location =>
            cases h
            exact .here rfl
    | some owner =>
        cases h
        exact .named
  · intro h
    cases h with
    | here hcurrent => rw [hcurrent, methodOwner]
    | named => rfl

theorem readTypes?_eq (content : List Char) :
    readTypes? content =
      if Text.trim content = [] then some []
      else if ∀ piece ∈ content.splitOn ',', Text.trim piece ≠ [] then
        some ((content.splitOn ',').map fun piece => String.ofList (Text.trim piece))
      else none := by
  rw [readTypes?]
  congr 1
  induction content.splitOn ',' with
  | nil => rfl
  | cons piece pieces ih =>
      rw [List.mapM_cons, ih]
      split
      next hblank => simp [hblank]
      next type hsome =>
        by_cases hrest : ∀ piece ∈ pieces, Text.trim piece ≠ []
        · have hall : ∀ other ∈ piece :: pieces, Text.trim other ≠ [] :=
            List.forall_mem_cons.mpr ⟨hsome, hrest⟩
          rw [if_pos hrest, if_pos hall]
          rfl
        · have hnot : ¬ ∀ other ∈ piece :: pieces, Text.trim other ≠ [] :=
            fun hall => hrest (List.forall_mem_cons.mp hall).2
          rw [if_neg hrest, if_neg hnot]
          rfl

/-- The reader finds the parameters that the grammar gives. -/
theorem readParameters_eq_ok_iff {s : List Char} {arguments : Option (List Char)}
    {parameters : ParameterFilter} :
    readParameters s arguments = .ok parameters ↔ ParameterForm arguments parameters := by
  cases arguments with
  | none =>
      constructor
      · rintro ⟨⟩
        exact .absent
      · rintro ⟨⟩
        rfl
  | some content =>
      rw [readParameters, readTypes?_eq]
      constructor
      · intro h
        by_cases hblank : Text.trim content = []
        · rw [if_pos hblank] at h
          cases h
          exact .blank hblank
        · rw [if_neg hblank] at h
          by_cases hpieces : ∀ piece ∈ content.splitOn ',', Text.trim piece ≠ []
          · rw [if_pos hpieces] at h
            cases h
            exact .listed hblank hpieces
          · rw [if_neg hpieces] at h
            cases h
      · intro h
        cases h with
        | blank hblank => rw [if_pos hblank]
        | listed hsome hpieces => rw [if_neg hsome, if_pos hpieces]

/-- There is no separator in a member name. -/
theorem not_mem_of_checkMember {member : List Char}
    (h : Name.checkMember (String.ofList member) = .ok ()) : ':' ∉ member ∧ '.' ∉ member := by
  have hname := Name.checkMember_eq_ok_iff.mp h
  exact ⟨Name.not_mem_of_isMemberName hname rfl (by decide) (by decide),
    Name.not_mem_of_isMemberName hname rfl (by decide) (by decide)⟩

/-- A head whose class and member are names has no closing parenthesis. -/
theorem MemberForm.not_mem {head member : List Char} {owner : Option (List Char)}
    (h : MemberForm head owner member) {current : Option CurrentLocation} {className : String}
    (howner : OwnerClass current owner className) (hclass : Name.checkClass className = .ok ())
    (hmember : Name.checkMember (String.ofList member) = .ok ()) : ')' ∉ head := by
  have hname : ')' ∉ member :=
    Name.not_mem_of_isMemberName (Name.checkMember_eq_ok_iff.mp hmember) rfl (by decide) (by decide)
  cases h with
  | bare _ => exact hname
  | qualified hhead hseparator _ =>
      cases howner
      have hvalid := Name.checkClass_eq_ok_iff.mp hclass
      rw [String.toList_ofList] at hvalid
      rw [hhead, List.mem_append, List.mem_cons]
      rintro (hbefore | heq | hafter)
      · exact Name.not_mem_of_isClassName hvalid rfl (by decide) hbefore
      · rw [← heq] at hseparator
        contradiction
      · exact hname hafter

theorem create_method_eq_ok_iff {className member : String} {parameters : ParameterFilter}
    {spec : Spec} : (MethodSpec.create className member parameters).map .method = .ok spec ↔
      Name.checkClass className = .ok () ∧ Name.checkMember member = .ok () ∧
        spec = .method ⟨className, member, parameters⟩ := by
  rw [MethodSpec.create]
  cases Name.checkClass className with
  | error e => simp [Except.map]
  | ok _ =>
      cases Name.checkMember member with
      | error e => simp [Except.map]
      | ok _ => simp [Except.map, eq_comm]

/-- The method texts, whether or not they also look like line texts. -/
theorem readMethod_eq_ok_iff {s : List Char} {current : Option CurrentLocation} {spec : Spec} :
    readMethod s current = .ok spec ↔
      ∃ head member arguments owner className parameters, CallForm s head arguments ∧
        MemberForm head owner member ∧ OwnerClass current owner className ∧
        Name.checkClass className = .ok () ∧ Name.checkMember (String.ofList member) = .ok () ∧
        ParameterForm arguments parameters ∧
        spec = .method ⟨className, String.ofList member, parameters⟩ := by
  constructor
  · intro h
    rw [readMethod_eq] at h
    split at h
    · cases h
    next head arguments harguments =>
      rcases hsplit : splitMember head with ⟨owner, member⟩
      simp only [hsplit] at h
      split at h
      · cases h
      split at h
      · cases h
      next className howner =>
        split at h
        · cases h
        next parameters hparameters =>
          obtain ⟨hclass, hmember, hspec⟩ := create_method_eq_ok_iff.mp h
          have hdivided := splitMember_divided head
          rw [hsplit] at hdivided
          obtain ⟨hcolon, hdot⟩ := not_mem_of_checkMember hmember
          have hform := hdivided.memberForm hcolon hdot
          have hclassName := methodOwner_eq_ok_iff.mp howner
          have hcall := splitArguments?_sound harguments (hform.not_mem hclassName hclass hmember)
          exact ⟨head, member, arguments, owner, className, parameters, hcall, hform, hclassName,
            hclass, hmember, readParameters_eq_ok_iff.mp hparameters, hspec⟩
  · rintro ⟨head, member, arguments, owner, className, parameters, hcall, hform, howner, hclass,
      hmember, hparameters, rfl⟩
    have hclosed : ')' ∉ member := Name.not_mem_of_isMemberName
      (Name.checkMember_eq_ok_iff.mp hmember) rfl (by decide) (by decide)
    have hsome : member ≠ [] := by
      rintro rfl
      contradiction
    have hnamed : owner ≠ some [] := by
      rintro rfl
      cases howner
      contradiction
    rw [readMethod_eq, hcall.splitArguments?]
    dsimp only
    rw [hform.splitMember hnamed hsome]
    simp only [List.isEmpty_eq_false_iff.mpr hsome, List.contains_eq_mem, hclosed, decide_false,
      Bool.or_self, Bool.false_eq_true, if_false, methodOwner_eq_ok_iff.mpr howner,
      readParameters_eq_ok_iff.mpr hparameters]
    exact create_method_eq_ok_iff.mpr ⟨hclass, hmember, rfl⟩

/-- What stands behind the last separator of a text. -/
def lastPart (s : List Char) : List Char :=
  (s.reverse.span fun c => !isSeparator c).1.reverse

theorem lastPart_eq {s before tail : List Char} (hs : s = before ++ tail)
    (hbefore : before = [] ∨ ∃ front separator, before = front ++ [separator] ∧
      isSeparator separator = true) (hcolon : ':' ∉ tail) (hdot : '.' ∉ tail) :
    lastPart s = tail := by
  have hplain : ∀ c ∈ tail.reverse, (!isSeparator c) = true := by
    intro c hc
    simp [not_isSeparator_of_not_mem hcolon hdot c (List.mem_reverse.mp hc)]
  rw [lastPart, hs, List.reverse_append]
  rcases hbefore with rfl | ⟨front, separator, rfl, hseparator⟩
  · rw [List.reverse_nil, List.append_nil, Text.span_eq_nil_iff.mpr ⟨rfl, hplain⟩,
      List.reverse_reverse]
  · rw [List.reverse_append, List.reverse_singleton, List.singleton_append,
      Text.span_eq_cons_iff.mpr ⟨rfl, hplain, by simp [hseparator]⟩, List.reverse_reverse]

theorem MemberForm.lastPart {head member : List Char} {owner : Option (List Char)}
    (h : MemberForm head owner member) : Spec.lastPart head = member := by
  cases h with
  | bare hcolon hdot => exact lastPart_eq (List.nil_append head).symm (.inl rfl) hcolon hdot
  | qualified hhead hseparator hcolon hdot =>
      exact lastPart_eq (hhead.trans (List.append_cons _ _ _))
        (.inr ⟨_, _, rfl, isSeparator_iff.mpr hseparator⟩) hcolon hdot

theorem LineForm.digits {s digits : List Char} {owner : Option (List Char)}
    (h : LineForm s owner digits) : Text.Digits digits := by
  cases h with
  | bare hdigits => exact hdigits
  | qualified _ _ hdigits => exact hdigits

theorem LineForm.lastPart {s digits : List Char} {owner : Option (List Char)}
    (h : LineForm s owner digits) : Spec.lastPart s = digits := by
  have hcolon : ':' ∉ digits := h.digits.not_mem rfl
  have hdot : '.' ∉ digits := h.digits.not_mem rfl
  cases h with
  | bare _ => exact lastPart_eq (List.nil_append s).symm (.inl rfl) hcolon hdot
  | qualified hs _ _ =>
      exact lastPart_eq (hs.trans (List.append_cons _ _ _)) (.inr ⟨_, ':', rfl, rfl⟩) hcolon hdot

/-- What has the form of a line text is no method text: its member would be a numeral. -/
theorem LineForm.readMethod_ne_ok {s digits : List Char} {owner : Option (List Char)}
    (h : LineForm s owner digits) (current : Option CurrentLocation) (spec : Spec) :
    readMethod s current ≠ .ok spec := by
  intro hread
  obtain ⟨head, member, arguments, before, className, parameters, hcall, hform, -, -, hmember, -⟩ :=
    readMethod_eq_ok_iff.mp hread
  have hlast := h.lastPart
  cases hcall with
  | plain _ =>
      rw [hform.lastPart] at hlast
      rw [hlast, Name.checkMember_eq_ok_iff, Name.isMemberName_digits h.digits] at hmember
      contradiction
  | call hs _ _ =>
      have hclose : ')' ∈ digits := by
        rw [← hlast, Spec.lastPart, hs]
        simp [List.span_eq_takeWhile_dropWhile, isSeparator]
      exact h.digits.not_mem rfl hclose

end Method

/-- The reader accepts exactly the texts of the grammar, and each of them as what it means. -/
theorem read_eq_ok_iff (raw : String) (current : Option CurrentLocation) (spec : Spec) :
    Spec.read raw current = .ok spec ↔ Denotes current (Text.trim raw.toList) spec := by
  rw [Spec.read_eq]
  generalize Text.trim raw.toList = s
  constructor
  · intro h
    cases hline : splitLine? s with
    | some parts =>
        rw [hline] at h
        have hform := splitLine?_sound hline
        obtain ⟨hbound, path, key, hpath, hkey, rfl⟩ :=
          (readLine_eq_ok_iff hform.digits).mp h
        exact .line hform hbound hpath hkey
    | none =>
        rw [hline] at h
        obtain ⟨head, member, arguments, owner, className, parameters, hcall, hform, howner, hclass,
          hmember, hparameters, rfl⟩ := readMethod_eq_ok_iff.mp h
        refine .method ?_ hcall hform howner hclass hmember hparameters
        intro before digits hdigits
        exact hdigits.readMethod_ne_ok current _ h
  · intro h
    cases h with
    | line hform hbound hpath hkey =>
        rcases hform.splitLine? with hline | ⟨-, head, rfl, hbreak⟩
        · rw [hline]
          exact (readLine_eq_ok_iff hform.digits).mpr ⟨hbound, _, _, hpath, hkey, rfl⟩
        · exact absurd hkey (not_lineFile_of_break hbreak hpath)
    | method hnone hcall hform howner hclass hmember hparameters =>
        have hline : splitLine? s = none := by
          cases hfound : splitLine? s with
          | none => rfl
          | some parts => exact absurd (splitLine?_sound hfound) (hnone parts.1 parts.2)
        rw [hline]
        exact readMethod_eq_ok_iff.mpr
          ⟨_, _, _, _, _, _, hcall, hform, howner, hclass, hmember, hparameters, rfl⟩

end Breakpoints.Spec
