import Breakpoints.Proofs.Filter
import Breakpoints.Proofs.Spec.Prefix
import Breakpoints.Proofs.Target.Calls

/-!
What a line of a file means in a scripted target: the place in the first class that is in the right
package, comes from the file and has code at the line.  The search looks only at classes from files
with the name of the file, and overlooks none by that.
-/

namespace Breakpoints

/-- A key names the file at a source path if its last segments are those of the path. -/
theorem sourceMatches_iff {key source : String} : sourceMatches key source = true ↔
    SourceKey.segments source <:+ SourceKey.segments key := by
  rw [SourceKey.segments_suffix_iff, sourceMatches, Bool.or_eq_true, decide_eq_true_iff]
  refine or_congr_right ?_
  cases hhead : source.toList.isSuffixOf? key.toList with
  | none =>
      have hnot : ∀ head, head ++ source.toList ≠ key.toList := by
        intro head heq
        rw [← List.isSuffixOf?_eq_some_iff_append_eq, hhead] at heq
        contradiction
      have hnone : ¬ ∃ front, key.toList = front ++ '/' :: source.toList := by
        rintro ⟨front, hfront⟩
        exact hnot (front ++ ['/']) (by rw [hfront, List.append_assoc, List.singleton_append])
      simpa using hnone
  | some head =>
      have hkey := List.isSuffixOf?_eq_some_iff_append_eq.mp hhead
      dsimp only
      rw [decide_eq_true_iff, List.getLast?_eq_some_iff, ← hkey]
      refine exists_congr fun front => ?_
      rw [List.append_cons front '/' source.toList, List.append_left_inj]

/-- The class stands in a package; without one, or with an empty one, any class does. -/
def InPackage (package : Option String) (name : String) : Prop :=
  package.getD "" = "" ∨ (package.getD "" ++ ".").toList <+: name.toList

instance (package : Option String) (name : String) : Decidable (InPackage package name) :=
  inferInstanceAs (Decidable (_ ∨ _))

/-- The place of code in a class. -/
def LoadedClass.anchor (c : LoadedClass) (index : Nat) : Anchor :=
  .location (some c.handle)
    ⟨1, c.handle.typeId, (c.methods.head?.map (·.methodId)).getD 0, index⟩

/-- A search in the elements with a property can do without it if it finds nothing in the
others. -/
theorem findSome?_filter {α β : Type} {p : α → Bool} {f g : α → Option β} {l : List α}
    (hkept : ∀ x ∈ l, p x = true → f x = g x) (hdropped : ∀ x ∈ l, p x = false → g x = none) :
    (l.filter p).findSome? f = l.findSome? g := by
  induction l with
  | nil => rfl
  | cons x rest ih =>
      obtain ⟨hkeptFirst, hkeptRest⟩ := List.forall_mem_cons.mp hkept
      obtain ⟨hdroppedFirst, hdroppedRest⟩ := List.forall_mem_cons.mp hdropped
      have hrest := ih hkeptRest hdroppedRest
      cases hx : p x with
      | false => rw [List.filter_cons_of_neg (by simp [hx]), List.findSome?_cons,
          hdroppedFirst hx, hrest]
      | true => rw [List.filter_cons_of_pos hx, List.findSome?_cons, List.findSome?_cons,
          hkeptFirst hx, hrest]

namespace LineSpec

variable {key : SourceKey} {package : Option String} {line : Nat} {spec : LineSpec}

/-- What a line of a file asks of a class. -/
structure Fits (key : SourceKey) (package : Option String) (line : Nat) (c : LoadedClass) :
    Prop where
  named : InPackage package c.handle.name
  placed : SourceKey.segments c.sourcePath <:+ SourceKey.segments key.path
  coded : c.lines.contains line = true

theorem fits_iff {c : LoadedClass} : Fits key package line c ↔
    InPackage package c.handle.name ∧
      SourceKey.segments c.sourcePath <:+ SourceKey.segments key.path ∧
        c.lines.contains line = true :=
  ⟨fun h => ⟨h.named, h.placed, h.coded⟩, fun ⟨hnamed, hplaced, hcoded⟩ =>
    ⟨hnamed, hplaced, hcoded⟩⟩

instance (c : LoadedClass) : Decidable (Fits key package line c) :=
  decidable_of_iff' _ fits_iff

/-- A package with a star behind it is a pattern for its classes. -/
theorem read_package_pattern {package : String} (h : Name.checkClass package = .ok ()) :
    NamePattern.read (package ++ ".*") = .ok (.startsWith (package ++ ".")) := by
  have hname := Name.checkClass_eq_ok_iff.mp h
  have hpattern : (package ++ ".*").toList = (package ++ ".").toList ++ ['*'] := by
    simp [String.toList_append]
  have hplain : Text.Trimmed (package ++ ".*").toList := by
    refine .of_plain fun c hc => ?_
    rw [String.toList_append, List.mem_append] at hc
    rcases hc with hclass | hend
    · exact Name.not_isBlank hname hclass
    · have hsign : c = '.' ∨ c = '*' := by simpa using hend
      rcases hsign with rfl | rfl
      · rfl
      · rfl
  have hform : NamePattern.Form ((package ++ ".").toList ++ ['*'])
      (.startsWith (String.ofList (package ++ ".").toList)) := by
    refine .startsWith (by simp [String.toList_append]) ?_
    rw [String.toList_append, List.mem_append]
    rintro (hclass | hdot)
    · exact Name.not_mem_of_isClassName hname rfl (by decide) hclass
    · contradiction
  rw [NamePattern.read_iff_form, hplain.trim_eq, hpattern]
  rwa [String.ofList_toList] at hform

/-- What a specification is made of. -/
theorem create_eq_ok (h : create key package line = .ok spec) :
    spec.key = key ∧ spec.line = line ∧ spec.sourceName = key.fileName ∧
      ∃ pattern, NamePattern.read spec.classPattern = .ok pattern ∧
        ∀ name, pattern.accepts name = true ↔ InPackage package name := by
  have hany : NamePattern.read "*" = .ok .any := by rfl
  unfold create at h
  split at h
  next =>
    cases h
    exact ⟨rfl, rfl, rfl, .any, hany, fun name => by simp [NamePattern.accepts, InPackage]⟩
  next package =>
    split at h
    next hempty =>
      cases h
      exact ⟨rfl, rfl, rfl, .any, hany, fun name => by
        simp [NamePattern.accepts, InPackage, hempty]⟩
    next hsome =>
      split at h
      next => cases h
      next hvalid =>
        cases h
        refine ⟨rfl, rfl, rfl, _, read_package_pattern hvalid, fun name => ?_⟩
        simp [NamePattern.accepts, InPackage, hsome]

section Search

variable {t : ScriptedTarget} {c : LoadedClass}

/-- No class from the file is overlooked because of the name of the file. -/
theorem lastSegment_of_sourceMatches {source : String}
    (h : sourceMatches key.path source = true) : SourceKey.lastSegment source = key.fileName := by
  rw [sourceMatches_iff, SourceKey.segments_suffix_iff] at h
  rw [SourceKey.fileName]
  rcases h with heq | ⟨front, hfront⟩
  · rw [heq]
  · exact (SourceKey.lastSegment_eq_of_append hfront).symm

/-- The place of the line in a class of the package and the file. -/
def place? (key : SourceKey) (package : Option String) (line : Nat) (c : LoadedClass) :
    Option Anchor :=
  if InPackage package c.handle.name ∧
      SourceKey.segments c.sourcePath <:+ SourceKey.segments key.path then
    (c.lines.find? line).map c.anchor
  else none

theorem place?_eq_some_iff {anchor : Anchor} : place? key package line c = some anchor ↔
    Fits key package line c ∧ ∃ index, c.lines.find? line = some index ∧
      anchor = c.anchor index := by
  rw [place?, fits_iff]
  split
  next hclass =>
    rw [Option.map_eq_some_iff]
    constructor
    · rintro ⟨index, hindex, rfl⟩
      exact ⟨⟨hclass.1, hclass.2, by rw [Table.contains, hindex]; rfl⟩, index, hindex, rfl⟩
    · rintro ⟨-, index, hindex, rfl⟩
      exact ⟨index, hindex, rfl⟩
  next hclass =>
    constructor
    · intro h
      contradiction
    · rintro ⟨⟨hnamed, hplaced, -⟩, -⟩
      exact absurd ⟨hnamed, hplaced⟩ hclass

theorem place?_eq_none_iff : place? key package line c = none ↔ ¬ Fits key package line c := by
  constructor
  · intro hnone hfits
    obtain ⟨index, hindex⟩ := Option.isSome_iff_exists.mp hfits.coded
    have hplace := place?_eq_some_iff.mpr ⟨hfits, index, hindex, rfl⟩
    rw [hnone] at hplace
    contradiction
  · intro hnot
    cases hplace : place? key package line c with
    | none => rfl
    | some anchor => exact absurd (place?_eq_some_iff.mp hplace).1 hnot

/-- The search goes through all loaded classes as they stand. -/
theorem resolve_eq (h : create key package line = .ok spec) (ht : t.Ordered) :
    spec.resolve t = t.classes.findSome? (place? key package line) := by
  obtain ⟨hkey, hline, hname, pattern, hpattern, haccepts⟩ := create_eq_ok h
  simp only [resolve, hpattern, Target.classesFrom, hname, hkey, hline, List.findSome?_map]
  refine findSome?_filter (fun c hc _ => ?_) (fun c hc hother => ?_)
  · have hcode : Target.codeAt? t c.handle line = (c.lines.find? line).map fun index =>
        ⟨1, c.handle.typeId, (c.methods.head?.map (·.methodId)).getD 0, index⟩ := by
      simp only [Target.codeAt?, ScriptedTarget.codeAt?, ht.classOf? hc, Option.bind_some]
    simp only [Function.comp_apply, hcode, Bool.and_eq_true, haccepts, sourceMatches_iff, place?,
      Option.map_map]
    rfl
  · rw [place?_eq_none_iff]
    intro hfits
    have hsame := lastSegment_of_sourceMatches (sourceMatches_iff.mpr hfits.placed)
    rw [decide_eq_false_iff_not] at hother
    exact hother hsame

end Search

/-- Whatever a target was told, its classes stand in the order in which they were loaded, and a line
means the place in the first of them that is in the package, comes from the file and has code at the
line; it means nothing if there is no such class.  Among the classes from files with the right name
are all that come from the file. -/
theorem resolve_first (h : create key package line = .ok spec) (calls : List ScriptedTarget.Call) :
    let t := ScriptedTarget.ofCalls calls
    t.Ordered ∧
    (∀ anchor, Spec.resolve (.line spec) t = .ok (some anchor) ↔
      ∃ before c after index, t.classes = before ++ c :: after ∧ Fits key package line c ∧
        (∀ earlier ∈ before, ¬ Fits key package line earlier) ∧
          c.lines.find? line = some index ∧ anchor = c.anchor index) ∧
    (Spec.resolve (.line spec) t = .ok none ↔ ∀ c ∈ t.classes, ¬ Fits key package line c) ∧
    (∀ c ∈ t.classes, sourceMatches key.path c.sourcePath = true →
      (c.handle, c.sourcePath) ∈ Target.classesFrom t spec.sourceName) := by
  intro t
  have hordered : t.Ordered := .ofCalls calls
  have hresolve : Spec.resolve (.line spec) t =
      .ok (t.classes.findSome? (place? key package line)) := by
    rw [Spec.resolve, resolve_eq h hordered]
  refine ⟨hordered, fun anchor => ?_, ?_, fun c hc hmatch => ?_⟩
  · rw [hresolve, Except.ok.injEq, List.findSome?_eq_some_iff]
    constructor
    · rintro ⟨before, c, after, hsplit, hplace, hearlier⟩
      obtain ⟨hfits, index, hindex, hanchor⟩ := place?_eq_some_iff.mp hplace
      exact ⟨before, c, after, index, hsplit, hfits,
        fun earlier hmem => place?_eq_none_iff.mp (hearlier earlier hmem), hindex, hanchor⟩
    · rintro ⟨before, c, after, index, hsplit, hfits, hearlier, hindex, hanchor⟩
      exact ⟨before, c, after, hsplit, place?_eq_some_iff.mpr ⟨hfits, index, hindex, hanchor⟩,
        fun earlier hmem => place?_eq_none_iff.mpr (hearlier earlier hmem)⟩
  · rw [hresolve, Except.ok.injEq, List.findSome?_eq_none_iff]
    exact forall₂_congr fun c _ => place?_eq_none_iff
  · simp only [Target.classesFrom, List.mem_map]
    refine ⟨c, List.mem_filter.mpr ⟨hc, decide_eq_true ?_⟩, rfl⟩
    rw [(create_eq_ok h).2.2.1]
    exact lastSegment_of_sourceMatches hmatch

/-- Before the right class there is one of another package, one from another file and one without
code at the line. -/
theorem resolve_first_fourth :
    let key : SourceKey := ⟨"src/main/java/com/example/Foo.java"⟩
    let spec : LineSpec := ⟨key, some "com.example", "com.example.*", "Foo.java", 12⟩
    let calls : List ScriptedTarget.Call :=
      [.load "other.Foo" "com/example/Foo.java", .addMember ⟨0x101, "other.Foo"⟩ (.line 12 10),
        .load "com.example.Foo" "old/com/example/Foo.java",
        .addMember ⟨0x102, "com.example.Foo"⟩ (.line 12 20),
        .load "com.example.Foo" "com/example/Foo.java",
        .addMember ⟨0x103, "com.example.Foo"⟩ (.line 11 30),
        .load "com.example.Foo$Inner" "com/example/Foo.java",
        .addMember ⟨0x104, "com.example.Foo$Inner"⟩ (.line 12 40)]
    create key (some "com.example") 12 = .ok spec ∧
      Spec.resolve (.line spec) (ScriptedTarget.ofCalls calls) =
        .ok (some (.location (some ⟨0x104, "com.example.Foo$Inner"⟩) ⟨1, 0x104, 0, 40⟩)) := by
  intro key spec calls
  have hspec : create key (some "com.example") 12 = .ok spec := by decide
  obtain ⟨-, hfirst, -⟩ := resolve_first hspec calls
  let classes := (ScriptedTarget.ofCalls calls).classes
  refine ⟨hspec, (hfirst _).mpr ⟨classes.take 3, classes[3], [], 40, rfl, ?_, ?_, rfl, rfl⟩⟩
  · decide
  · decide

end LineSpec

end Breakpoints
