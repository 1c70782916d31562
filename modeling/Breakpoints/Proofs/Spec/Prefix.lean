import Breakpoints.Proofs.Spec.Grammar

/-!
A class and its file in front of a line number.  The file of a class has a path that is a key as it
stands, so the class and the path, with slashes or with backslashes, mean the same line.  A path
without a directory has no separator by which it could be told from a class name, and is read as
one.
-/

namespace Breakpoints

namespace Text

/-- Digits are not white space. -/
theorem isBlank_of_isDigit {c : Char} (h : c.isDigit = true) : isBlank c = false := by
  have hrange : 48 ≤ c.toNat ∧ c.toNat ≤ 57 := by
    simpa [Char.isDigit, UInt32.le_iff_toNat_le] using h
  by_contra hblank
  rw [Bool.not_eq_false] at hblank
  obtain ⟨range, hmem, hlow, hhigh⟩ := CharTable.exists_of_hasCode hblank
  have hapart : ∀ range ∈ blanks, range.2 < 48 ∨ 57 < range.1 := by decide
  have hside := hapart range hmem
  omega

end Text

namespace Name

section Outermost

variable {s tail : List Char}

theorem outermost_initial (s : List Char) : outermost s <+: s := by
  rw [outermost]
  split
  · exact List.prefix_refl s
  · exact List.takeWhile_prefix _

/-- Nothing more is cut off after a name that was cut off at its first dollar sign. -/
theorem outermost_append (hs : s ≠ []) (htail : '$' ∉ tail) :
    outermost (outermost s ++ tail) = outermost s ++ tail := by
  have hkept : ∀ l : List Char, l.takeWhile (· ≠ '$') = l → outermost l = l := by
    intro l hl
    rw [outermost, hl]
    cases l with
    | nil => rfl
    | cons c l => rfl
  cases hcut : s.takeWhile (· ≠ '$') with
  | nil =>
      obtain ⟨c, rest, rfl⟩ := List.exists_cons_of_ne_nil hs
      have hdollar : c = '$' := by
        by_contra hne
        simp [hne] at hcut
      subst hdollar
      rfl
  | cons c outer =>
      have houter : outermost s = c :: outer := by rw [outermost, hcut]
      rw [houter]
      apply hkept
      rw [List.takeWhile_eq_self_iff]
      intro x hx
      rcases List.mem_append.mp hx with hfront | hback
      · rw [← hcut] at hfront
        have hne := List.mem_takeWhile_imp hfront
        exact hne
      · have hne : x ≠ '$' := by
          rintro rfl
          exact htail hback
        simpa using hne

end Outermost

/-- The characters of the path of the file that declares a class. -/
def filePath (s : List Char) : List Char :=
  (outermost s).map (fun c => if c = '.' then '/' else c) ++ ".java".toList

theorem sourcePath_eq {name : String} (h : checkClass name = .ok ()) :
    sourcePath name = .ok (String.ofList (filePath name.toList)) := by
  rw [sourcePath, h, filePath, String.ofList_append, String.ofList_toList]

/-- A text whose pieces between dots are not empty stays so when the dots become slashes, also if
it is cut off and goes on in another way. -/
theorem segmented_slashed {front rest tail : List Char}
    (hpieces : ∀ piece ∈ (front ++ rest).splitOn '.', piece ≠ []) (hslash : '/' ∉ front)
    (htail : tail ≠ []) (hflat : '/' ∉ tail) :
    SourceKey.Segmented (front.map (fun c => if c = '.' then '/' else c) ++ tail) := by
  have hwhole : ∀ s : List Char, s ≠ [] → '/' ∉ s → SourceKey.Segmented s := by
    intro s hs hnone segment hsegment
    rw [List.splitOn_eq_singleton hnone, List.mem_singleton] at hsegment
    rwa [hsegment]
  induction hlength : front.length using Nat.strong_induction_on generalizing front with
  | h length ih =>
      by_cases hdot : '.' ∈ front
      · -- the first dot ends a piece that is whole; the rest is shorter
        obtain ⟨first, later, rfl, hfirst⟩ := List.eq_append_cons_of_mem hdot
        have hsplit : (first ++ '.' :: later ++ rest).splitOn '.' =
            first.splitOn '.' ++ (later ++ rest).splitOn '.' := by
          rw [List.append_assoc, List.cons_append]
          exact List.splitOn_append_cons_self first (later ++ rest)
        rw [hsplit, List.forall_mem_append, List.splitOn_eq_singleton hfirst] at hpieces
        simp only [List.mem_append, List.mem_cons, not_or] at hslash
        rw [List.map_append, List.map_cons, if_pos rfl, Text.map_exchange_eq_self hfirst,
          List.append_assoc, List.cons_append, SourceKey.segmented_append_iff]
        refine ⟨hwhole first (hpieces.1 first (List.mem_singleton_self first)) hslash.1, ?_⟩
        refine ih later.length ?_ hpieces.2 hslash.2.2 rfl
        simp only [List.length_append, List.length_cons] at hlength
        omega
      · rw [Text.map_exchange_eq_self hdot]
        refine hwhole _ (by simp [htail]) ?_
        simp [hslash, hflat]

section ClassName

variable {s : List Char} (h : isClassName s = true)

include h

theorem pieces_ne_nil : ∀ piece ∈ s.splitOn '.', piece ≠ [] := by
  rintro piece hpiece rfl
  rw [isClassName, List.all_eq_true] at h
  have hempty := h [] hpiece
  contradiction

theorem continuesIdentifier_of_mem {c : Char} (hc : c ∈ s) (hdot : c ≠ '.') :
    continuesIdentifier c = true := by
  by_contra hother
  rw [Bool.not_eq_true] at hother
  exact not_mem_of_isClassName h hother hdot hc

/-- A class name begins with an identifier. -/
theorem exists_eq_cons : ∃ c rest, s = c :: rest ∧ startsIdentifier c = true := by
  cases s with
  | nil => contradiction
  | cons c rest =>
      refine ⟨c, rest, rfl, ?_⟩
      rw [isClassName, List.all_eq_true, List.splitOn_cons_eq_if_modifyHead] at h
      split at h
      next => exact absurd (h [] List.mem_cons_self) Bool.false_ne_true
      next =>
        cases hsplit : rest.splitOn '.' with
        | nil => exact absurd hsplit (List.splitOn_ne_nil _ _)
        | cons first later =>
            have hfirst := h (c :: first) (by simp [hsplit])
            simp only [isIdentifier, Bool.and_eq_true] at hfirst
            exact hfirst.1

/-- What is left of the name begins in the same way. -/
theorem exists_outermost_eq_cons :
    ∃ c rest, outermost s = c :: rest ∧ startsIdentifier c = true := by
  obtain ⟨c, rest, rfl, hstarts⟩ := exists_eq_cons h
  rw [outermost]
  by_cases hdollar : c = '$'
  · exact ⟨c, rest, by simp [hdollar], hstarts⟩
  · exact ⟨c, rest.takeWhile (· ≠ '$'), by simp [hdollar], hstarts⟩

theorem mem_filePath {c : Char} (hc : c ∈ filePath s) :
    c = '/' ∨ c = '.' ∨ continuesIdentifier c = true := by
  rw [filePath, List.mem_append] at hc
  rcases hc with hfront | htail
  · obtain ⟨x, hx, rfl⟩ := List.mem_map.mp hfront
    by_cases hdot : x = '.'
    · exact .inl (if_pos hdot)
    · rw [if_neg hdot]
      exact .inr (.inr (continuesIdentifier_of_mem h ((outermost_initial s).subset hx) hdot))
  · have hjava : "java".toList.all continuesIdentifier = true := by decide
    rcases List.mem_cons.mp htail with hdot | hending
    · exact .inr (.inl hdot)
    · exact .inr (.inr (List.all_eq_true.mp hjava c hending))

theorem not_mem_filePath {c : Char} (hslash : c ≠ '/') (hdot : c ≠ '.')
    (hc : continuesIdentifier c = false) : c ∉ filePath s := by
  intro hmem
  rcases mem_filePath h hmem with heq | heq | hcontinues
  · exact hslash heq
  · exact hdot heq
  · exact Bool.false_ne_true (hc.symm.trans hcontinues)

/-- The path of the file of a class is a key as it stands. -/
theorem filePath_form : SourceKey.PathForm (filePath s) where
  segments := by
    obtain ⟨rest, hrest⟩ := outermost_initial s
    have hpieces : ∀ piece ∈ (outermost s ++ rest).splitOn '.', piece ≠ [] := by
      rw [hrest]
      exact pieces_ne_nil h
    have hslash : '/' ∉ s := not_mem_of_isClassName h rfl (by decide)
    exact segmented_slashed hpieces (fun hmem => hslash ((outermost_initial s).subset hmem))
      (by decide) (by decide)
  plain c hc := by
    refine ⟨?_, ?_, ?_, ?_⟩
    · rintro rfl
      exact not_mem_filePath h (by decide) (by decide) rfl hc
    · by_contra hcontrol
      rw [Bool.not_eq_false] at hcontrol
      have hcontinues := continuesIdentifier_of_isControl hcontrol
      refine not_mem_filePath h ?_ ?_ hcontinues hc
      · rintro rfl
        contradiction
      · rintro rfl
        contradiction
    · rintro rfl
      exact not_mem_filePath h (by decide) (by decide) rfl hc
    · rintro rfl
      exact not_mem_filePath h (by decide) (by decide) rfl hc

theorem not_here_filePath : ¬ SourceKey.here <+: filePath s := by
  rintro ⟨rest, hrest⟩
  obtain ⟨c, later, houter, hstarts⟩ := exists_outermost_eq_cons h
  rw [filePath, houter, List.map_cons, List.cons_append, SourceKey.here, List.cons_append,
    List.cons.injEq] at hrest
  have hfirst := hrest.1
  split at hfirst
  next => contradiction
  next =>
    rw [← hfirst] at hstarts
    contradiction

theorem ofPath_filePath :
    SourceKey.ofPath (String.ofList (filePath s)) = .ok ⟨String.ofList (filePath s)⟩ := by
  let key : SourceKey := ⟨String.ofList (filePath s)⟩
  have hlist : key.path.toList = filePath s := String.toList_ofList
  have hkept : SourceKey.ofPath key.path = .ok key := by
    apply SourceKey.ofPath_eq_self
    · rw [hlist]
      exact filePath_form h
    · rw [hlist]
      exact not_here_filePath h
  exact hkept

theorem not_isBlank {c : Char} (hc : c ∈ s) : Text.isBlank c = false := by
  by_cases hdot : c = '.'
  · rw [hdot]
    rfl
  · have hcontinues := continuesIdentifier_of_mem h hc hdot
    by_contra hblank
    rw [Bool.not_eq_false] at hblank
    rw [continuesIdentifier_of_isBlank hblank] at hcontinues
    contradiction

theorem not_isBlank_filePath {c : Char} (hc : c ∈ filePath s) : Text.isBlank c = false := by
  rcases mem_filePath h hc with rfl | rfl | hcontinues
  · rfl
  · rfl
  · by_contra hblank
    rw [Bool.not_eq_false] at hblank
    rw [continuesIdentifier_of_isBlank hblank] at hcontinues
    contradiction

end ClassName

section Unpackaged

variable {s : List Char}

/-- Without a directory in the path there is no dot in the name. -/
theorem not_mem_outermost (hflat : '/' ∉ filePath s) : '.' ∉ outermost s := by
  intro hdot
  apply hflat
  rw [filePath, List.mem_append]
  exact .inl (List.mem_map.mpr ⟨'.', hdot, if_pos rfl⟩)

theorem filePath_eq (hflat : '/' ∉ filePath s) : filePath s = outermost s ++ ".java".toList := by
  rw [filePath, Text.map_exchange_eq_self (not_mem_outermost hflat)]

/-- The name of a file in no directory is a class name too, whose last part is the ending. -/
theorem isClassName_filePath (h : isClassName s = true) (hflat : '/' ∉ filePath s) :
    isClassName (filePath s) = true := by
  have hnodot : '.' ∉ outermost s := not_mem_outermost hflat
  obtain ⟨c, rest, houter, hstarts⟩ := exists_outermost_eq_cons h
  have hsplit : (filePath s).splitOn '.' = [outermost s, "java".toList] := by
    have hjava : ".java".toList = '.' :: "java".toList := rfl
    have hending : ("java".toList).splitOn '.' = ["java".toList] := by decide
    rw [filePath_eq hflat, hjava, List.splitOn_append_cons_self, List.splitOn_eq_singleton hnodot,
      hending]
    rfl
  have hidentifier : isIdentifier (outermost s) = true := by
    have hall : ∀ x ∈ rest, continuesIdentifier x = true := by
      intro x hx
      have hmem : x ∈ outermost s := houter ▸ List.mem_cons_of_mem c hx
      refine continuesIdentifier_of_mem h ((outermost_initial s).subset hmem) ?_
      rintro rfl
      exact hnodot hmem
    rw [houter, isIdentifier, hstarts, Bool.true_and, List.all_eq_true]
    exact hall
  have hjava : isIdentifier "java".toList = true := by decide
  rw [isClassName, hsplit, List.all_cons, List.all_cons, hidentifier, hjava]
  rfl

theorem filePath_filePath (h : isClassName s = true) (hflat : '/' ∉ filePath s) :
    filePath (filePath s) = outermost s ++ "/java.java".toList := by
  obtain ⟨c, rest, hs, -⟩ := exists_eq_cons h
  have hsome : s ≠ [] := by simp [hs]
  have hpath := filePath_eq hflat
  have houter : outermost (filePath s) = outermost s ++ ".java".toList := by
    rw [hpath]
    exact outermost_append hsome (by decide)
  have hfront : (outermost s).map (fun c => if c = '.' then '/' else c) ++ ".java".toList =
      outermost s ++ ".java".toList := hpath
  have hsame := List.append_cancel_right hfront
  have hending : (".java".toList).map (fun c => if c = '.' then '/' else c) = "/java".toList := by
    decide
  rw [filePath, houter, List.map_append, hsame, hending, List.append_assoc]
  rfl

end Unpackaged

end Name

namespace Spec

/-- A text in front of a line number names the line of its file. -/
theorem read_of_lineFile {owner path : String} {n : Nat} {current : Option CurrentLocation}
    {key : SourceKey} (hsome : owner.toList ≠ [])
    (hplain : ∀ c ∈ owner.toList, Text.isBlank c = false) (hn : n ≤ Text.maxWord)
    (hfile : LineFile current (some owner.toList) path) (hkey : SourceKey.ofPath path = .ok key) :
    read (owner ++ ":" ++ toString n) current = .ok (.line ⟨key, none, "*", key.fileName, n⟩) := by
  let text := owner ++ ":" ++ toString n
  have htext : text.toList = owner.toList ++ ':' :: (toString n).toList := by
    simp [text, String.toList_append]
  have hdigits : Text.Digits (toString n).toList := Text.digits_toString n
  have htrimmed : Text.Trimmed text.toList := by
    have hnumber : Text.Trimmed (':' :: (toString n).toList) := by
      refine .of_plain (List.forall_mem_cons.mpr ⟨rfl, fun c hc => ?_⟩)
      exact Text.isBlank_of_isDigit (hdigits.digits c hc)
    rw [htext]
    exact (Text.Trimmed.of_plain hplain).append hnumber hsome (List.cons_ne_nil _ _)
  have hform : LineForm text.toList (some owner.toList) (toString n).toList :=
    .qualified htext hsome hdigits
  have hsplit : splitLine? text.toList = some (some owner.toList, (toString n).toList) := by
    rcases hform.splitLine? with hfound | ⟨-, head, hhead, hbreak⟩
    · exact hfound
    · rw [Option.some.injEq] at hhead
      have hblank := hplain '\n' (hhead ▸ hbreak)
      contradiction
  have hread : read text current = readLine (some owner.toList) (toString n).toList current := by
    simp only [read_eq, htrimmed.trim_eq, hsplit]
  rw [hread, readLine_eq_ok_iff hdigits, Text.decimal_toString]
  exact ⟨hn, path, key, hfile, hkey, rfl⟩

/-- A class in front of a line number names the line of the file that declares it. -/
theorem read_of_class {className : String} (h : Name.isClassName className.toList = true) {n : Nat}
    (hn : n ≤ Text.maxWord) (current : Option CurrentLocation) :
    let key : SourceKey := ⟨String.ofList (Name.filePath className.toList)⟩
    read (className ++ ":" ++ toString n) current =
      .ok (.line ⟨key, none, "*", key.fileName, n⟩) := by
  intro key
  have hsource : Name.sourcePath (String.ofList className.toList) = .ok key.path := by
    rw [String.ofList_toList]
    exact Name.sourcePath_eq (Name.checkClass_eq_ok_iff.mpr h)
  obtain ⟨c, rest, hcons, -⟩ := Name.exists_eq_cons h
  refine read_of_lineFile ?_ (fun c hc => Name.not_isBlank h hc) hn ?_ (Name.ofPath_filePath h)
  · rw [hcons]
    exact List.cons_ne_nil c rest
  · exact .ofClass (Name.not_mem_of_isClassName h rfl (by decide))
      (Name.not_mem_of_isClassName h rfl (by decide)) hsource

/-- A path in front of a line number is read as it is if it has a separator. -/
theorem read_of_path {path : String} {n : Nat} {current : Option CurrentLocation} {key : SourceKey}
    (hseparator : '/' ∈ path.toList ∨ '\\' ∈ path.toList)
    (hplain : ∀ c ∈ path.toList, Text.isBlank c = false) (hn : n ≤ Text.maxWord)
    (hkey : SourceKey.ofPath path = .ok key) :
    read (path ++ ":" ++ toString n) current = .ok (.line ⟨key, none, "*", key.fileName, n⟩) := by
  have hsome : path.toList ≠ [] := by
    rcases hseparator with hslash | hback
    · exact List.ne_nil_of_mem hslash
    · exact List.ne_nil_of_mem hback
  have hfile : LineFile current (some path.toList) (String.ofList path.toList) := .path hseparator
  rw [String.ofList_toList] at hfile
  exact read_of_lineFile hsome hplain hn hfile hkey

/-- The file of a class without a package is read as a class. -/
theorem read_of_flat {className : String} (h : Name.isClassName className.toList = true) {n : Nat}
    (hn : n ≤ Text.maxWord) (current : Option CurrentLocation)
    (hflat : '/' ∉ Name.filePath className.toList) :
    let path := String.ofList (Name.filePath className.toList)
    ∃ stem, path = stem ++ ".java" ∧
      let other : SourceKey := ⟨stem ++ "/java.java"⟩
      read (path ++ ":" ++ toString n) current =
        .ok (.line ⟨other, none, "*", other.fileName, n⟩) := by
  intro path
  have hlist : path.toList = Name.filePath className.toList := String.toList_ofList
  let stem := String.ofList (Name.outermost className.toList)
  have hstem : path = stem ++ ".java" := by
    have hcut : stem.toList = Name.outermost className.toList := String.toList_ofList
    rw [← String.toList_inj, hlist, Name.filePath_eq hflat, String.toList_append, hcut]
  have hother : String.ofList (Name.filePath path.toList) = stem ++ "/java.java" := by
    rw [hlist, Name.filePath_filePath h hflat, String.ofList_append, String.ofList_toList]
  have hname : Name.isClassName path.toList = true := by
    rw [hlist]
    exact Name.isClassName_filePath h hflat
  refine ⟨stem, hstem, ?_⟩
  rw [← hother]
  exact read_of_class hname hn current

/-- A class in front of a line number names the line of the file that declares it, which is the file
that its name is made the path of.  If this path has a directory, the path in the place of the
class, with slashes or with backslashes, gives the same.  A path without a directory has no slash to
be written in another way, and is read as the class of that name: its ending counts as the class,
and what stands before as the package. -/
theorem read_class_file {className : String} (hclass : Name.checkClass className = .ok ())
    {n : Nat} (hn : n ≤ Text.maxWord) (current : Option CurrentLocation) :
    ∃ path, Name.sourcePath className = .ok path ∧
      let key : SourceKey := ⟨path⟩
      let spec : Spec := .line ⟨key, none, "*", key.fileName, n⟩
      let backslashed := String.ofList (SourceKey.backSlashes path.toList)
      read (className ++ ":" ++ toString n) current = .ok spec ∧
        ('/' ∈ path.toList →
          read (path ++ ":" ++ toString n) current = .ok spec ∧
            read (backslashed ++ ":" ++ toString n) current = .ok spec) ∧
        ('/' ∉ path.toList → backslashed = path ∧ ∃ stem, path = stem ++ ".java" ∧
          let other : SourceKey := ⟨stem ++ "/java.java"⟩
          read (path ++ ":" ++ toString n) current =
            .ok (.line ⟨other, none, "*", other.fileName, n⟩)) := by
  have h : Name.isClassName className.toList = true := Name.checkClass_eq_ok_iff.mp hclass
  let path := String.ofList (Name.filePath className.toList)
  have hlist : path.toList = Name.filePath className.toList := String.toList_ofList
  have hplain : ∀ c ∈ path.toList, Text.isBlank c = false := by
    rw [hlist]
    exact fun c hc => Name.not_isBlank_filePath h hc
  have hkey : SourceKey.ofPath path = .ok ⟨path⟩ := Name.ofPath_filePath h
  refine ⟨path, Name.sourcePath_eq hclass, read_of_class h hn current, fun hslash => ⟨?_, ?_⟩,
    fun hflat => ⟨?_, ?_⟩⟩
  · exact read_of_path (.inl hslash) hplain hn hkey
  · have hback : '\\' ∈ SourceKey.backSlashes path.toList :=
      List.mem_map.mpr ⟨'/', hslash, if_pos rfl⟩
    have hnone : '\\' ∉ path.toList := by
      rw [hlist]
      exact fun hmem => ((Name.filePath_form h).plain _ hmem).1 rfl
    refine read_of_path ?_ ?_ hn (SourceKey.ofPath_backSlashes hnone hkey)
    · rw [String.toList_ofList]
      exact .inr hback
    · rw [String.toList_ofList]
      intro c hc
      rcases SourceKey.mem_backSlashes hc with rfl | hmem
      · rfl
      · exact hplain c hmem
  · rw [SourceKey.backSlashes_eq_self hflat, String.ofList_toList]
  · rw [hlist] at hflat
    exact read_of_flat h hn current hflat

/-- A class in a package and its file, with slashes and with backslashes. -/
theorem read_class_file_packaged :
    let key : SourceKey := ⟨"a/b/Outer.java"⟩
    let spec : Spec := .line ⟨key, none, "*", key.fileName, 42⟩
    read "a.b.Outer$Inner:42" none = .ok spec ∧ read "a/b/Outer.java:42" none = .ok spec ∧
      read "a\\b\\Outer.java:42" none = .ok spec := by
  intro key spec
  obtain ⟨path, hsource, hread, hslash, -⟩ :=
    read_class_file (by decide : Name.checkClass "a.b.Outer$Inner" = .ok ()) (n := 42)
      (by decide) none
  have hpath : Name.sourcePath "a.b.Outer$Inner" = .ok "a/b/Outer.java" := by decide
  rw [hpath] at hsource
  cases hsource
  obtain ⟨hforward, hback⟩ := hslash (by decide)
  exact ⟨hread, hforward, hback⟩

/-- The file of a class without a package is read as another class. -/
theorem read_class_file_unpackaged :
    ¬ ∀ (className : String) (n : Nat) (current : Option CurrentLocation),
      Name.checkClass className = .ok () → n ≤ Text.maxWord →
        ∃ path spec, Name.sourcePath className = .ok path ∧
          read (className ++ ":" ++ toString n) current = .ok spec ∧
            read (path ++ ":" ++ toString n) current = .ok spec := by
  intro h
  obtain ⟨path, spec, hsource, hclass, hfile⟩ := h "Foo" 1 none (by decide) (by decide)
  have hpath : Name.sourcePath "Foo" = .ok "Foo.java" := by decide
  rw [hpath] at hsource
  cases hsource
  have hread : read "Foo:1" none = .ok (.line ⟨⟨"Foo.java"⟩, none, "*", "Foo.java", 1⟩) := by
    decide
  have hother : read "Foo.java:1" none =
      .ok (.line ⟨⟨"Foo/java.java"⟩, none, "*", "java.java", 1⟩) := by decide
  have hsame := (hread.symm.trans hclass).trans (hfile.symm.trans hother)
  simp at hsame

end Spec

end Breakpoints
