import Breakpoints.Proofs.Spec.Prefix

/-!
The file of a class, piece by piece.  A nested class is cut off at the first dollar sign of the
whole name, not of its last piece: the path keeps the package only if no piece of it has a dollar
sign, and loses a class that begins with one.
-/

namespace Breakpoints

namespace Text

theorem map_exchange_intercalate {old new : Char} {pieces : List (List Char)}
    (h : ∀ piece ∈ pieces, old ∉ piece) :
    ([old].intercalate pieces).map (fun c => if c = old then new else c) =
      [new].intercalate pieces := by
  induction pieces with
  | nil => rfl
  | cons first rest ih =>
      rw [List.forall_mem_cons] at h
      cases rest with
      | nil =>
          rw [List.intercalate_singleton, List.intercalate_singleton, map_exchange_eq_self h.1]
      | cons second rest =>
          rw [List.intercalate_cons_cons, List.intercalate_cons_cons, List.map_append,
            List.map_append, ih h.2, map_exchange_eq_self h.1, List.map_singleton, if_pos rfl]

end Text

namespace Name

/-- The pieces of a name up to the first dollar sign of all. -/
def upToDollar : List (List Char) → List (List Char)
  | [] => []
  | piece :: rest =>
      if '$' ∈ piece then [piece.takeWhile (· ≠ '$')] else piece :: upToDollar rest

/-- A class name without packages, up to its first dollar sign that is not its first character. -/
def withoutNested : List Char → List Char
  | [] => []
  | c :: rest => c :: rest.takeWhile (· ≠ '$')

/-- The path of a file in directories. -/
def fileOf (pieces : List (List Char)) : String :=
  String.ofList (['/'].intercalate pieces ++ ".java".toList)

section Pieces

variable {pieces : List (List Char)} {piece last : List Char}

theorem upToDollar_ne_nil (h : pieces ≠ []) : upToDollar pieces ≠ [] := by
  cases pieces with
  | nil => contradiction
  | cons first rest =>
      rw [upToDollar]
      split
      · exact List.cons_ne_nil _ _
      · exact List.cons_ne_nil _ _

theorem exists_of_mem_upToDollar (h : piece ∈ upToDollar pieces) :
    ∃ whole ∈ pieces, piece <+: whole := by
  induction pieces with
  | nil => contradiction
  | cons first rest ih =>
      rw [upToDollar] at h
      split at h
      · rw [List.mem_singleton.mp h]
        exact ⟨first, List.mem_cons_self, List.takeWhile_prefix _⟩
      · rcases List.mem_cons.mp h with rfl | hrest
        · exact ⟨piece, List.mem_cons_self, List.prefix_refl piece⟩
        · obtain ⟨whole, hwhole, hbegins⟩ := ih hrest
          exact ⟨whole, List.mem_cons_of_mem first hwhole, hbegins⟩

theorem takeWhile_of_not_mem (h : '$' ∉ piece) : piece.takeWhile (· ≠ '$') = piece := by
  rw [List.takeWhile_eq_self_iff]
  intro c hc
  rw [decide_eq_true_iff]
  rintro rfl
  exact h hc

theorem takeWhile_append_of_mem {rest : List Char} (h : '$' ∈ piece) :
    (piece ++ rest).takeWhile (· ≠ '$') = piece.takeWhile (· ≠ '$') := by
  obtain ⟨front, back, rfl, hfront⟩ := List.eq_append_cons_of_mem h
  simp [List.takeWhile_append]

theorem upToDollar_singleton (piece : List Char) :
    upToDollar [piece] = [piece.takeWhile (· ≠ '$')] := by
  rw [upToDollar]
  split
  · rfl
  next hnone => rw [takeWhile_of_not_mem hnone, upToDollar]

/-- What is cut off at the first dollar sign is cut off piece by piece. -/
theorem takeWhile_intercalate {d : Char} (hd : d ≠ '$') (pieces : List (List Char)) :
    ([d].intercalate pieces).takeWhile (· ≠ '$') = [d].intercalate (upToDollar pieces) := by
  induction pieces with
  | nil => rfl
  | cons first rest ih =>
      cases rest with
      | nil =>
          rw [upToDollar_singleton, List.intercalate_singleton, List.intercalate_singleton]
      | cons second rest =>
          rw [upToDollar, List.intercalate_cons_cons, List.append_assoc]
          split
          next hdollar => rw [takeWhile_append_of_mem hdollar, List.intercalate_singleton]
          next hnone =>
            obtain ⟨kept, later, hkept⟩ :=
              List.exists_cons_of_ne_nil (upToDollar_ne_nil (List.cons_ne_nil second rest))
            rw [List.takeWhile_append, takeWhile_of_not_mem hnone, if_pos rfl,
              List.singleton_append, List.takeWhile_cons_of_pos (by simp [hd]), ih, hkept,
              List.intercalate_cons_cons, List.append_assoc, List.singleton_append]

theorem outermost_eq (s : List Char) :
    outermost s = if s.head? = some '$' then s else s.takeWhile (· ≠ '$') := by
  cases s with
  | nil => rfl
  | cons c rest =>
      rw [outermost]
      by_cases hdollar : c = '$'
      · simp [hdollar]
      · simp [hdollar]

/-- The path of the file of a class, from the pieces of its name. -/
theorem filePath_eq_of_splitOn {s : List Char} (hpieces : s.splitOn '.' = pieces) :
    String.ofList (filePath s) =
      fileOf (if s.head? = some '$' then pieces else upToDollar pieces) := by
  have hjoin : ['.'].intercalate pieces = s := by rw [← hpieces, List.intercalate_splitOn]
  have hdots : ∀ piece ∈ pieces, '.' ∉ piece := by
    rw [← hpieces]
    exact fun piece hpiece => Text.not_mem_of_mem_splitOn hpiece
  rw [filePath, fileOf, outermost_eq]
  split
  · rw [← hjoin, Text.map_exchange_intercalate hdots]
  · have hkept : ∀ piece ∈ upToDollar pieces, '.' ∉ piece := by
      intro piece hpiece hdot
      obtain ⟨whole, hwhole, hbegins⟩ := exists_of_mem_upToDollar hpiece
      exact hdots whole hwhole (hbegins.subset hdot)
    rw [← hjoin, takeWhile_intercalate (by decide), Text.map_exchange_intercalate hkept]

/-- A path tells its pieces. -/
theorem fileOf_inj {others : List (List Char)} (hsome : pieces ≠ []) (hothers : others ≠ [])
    (hpieces : ∀ piece ∈ pieces, '/' ∉ piece) (hplain : ∀ piece ∈ others, '/' ∉ piece) :
    fileOf pieces = fileOf others ↔ pieces = others := by
  refine ⟨fun h => ?_, fun h => by rw [h]⟩
  rw [fileOf, fileOf, String.ofList_inj, List.append_cancel_right_eq] at h
  rw [← List.splitOn_intercalate '/' hpieces hsome, h,
    List.splitOn_intercalate '/' hplain hothers]

theorem withoutNested_initial (last : List Char) : withoutNested last <+: last := by
  cases last with
  | nil => exact List.prefix_refl []
  | cons c rest => exact (List.prefix_cons_inj c).mpr (List.takeWhile_prefix _)

theorem withoutNested_ne_nil (h : last ≠ []) : withoutNested last ≠ [] := by
  cases last with
  | nil => contradiction
  | cons c rest => exact List.cons_ne_nil c _

theorem withoutNested_eq_self_iff : withoutNested last = last ↔ '$' ∉ last.tail := by
  cases last with
  | nil => simp [withoutNested]
  | cons c rest =>
      rw [withoutNested, List.cons.injEq, List.tail_cons, List.takeWhile_eq_self_iff]
      simp only [true_and, decide_eq_true_iff]
      exact ⟨fun h hmem => h '$' hmem rfl, fun h c hc heq => h (heq ▸ hc)⟩

/-- Cutting off at the first dollar sign of all keeps the pieces of the package if none of them has
a dollar sign, and the class if it begins with another character. -/
theorem upToDollar_eq_iff {package : List (List Char)} (hlast : last ≠ []) :
    upToDollar (package ++ [last]) = package ++ [withoutNested last] ↔
      (∀ piece ∈ package, '$' ∉ piece) ∧ last.head? ≠ some '$' := by
  induction package with
  | nil =>
      obtain ⟨c, rest, rfl⟩ := List.exists_cons_of_ne_nil hlast
      rw [List.nil_append, List.nil_append, upToDollar_singleton, withoutNested]
      by_cases hdollar : c = '$'
      · simp [hdollar]
      · simp [hdollar]
  | cons first package ih =>
      rw [List.cons_append, List.cons_append, upToDollar, List.forall_mem_cons]
      split
      next hdollar => simp [hdollar]
      next hnone => rw [List.cons.injEq, ih]; simp [hnone]

end Pieces

theorem not_mem_of_piece {s piece : List Char} (h : isClassName s = true)
    (hpiece : piece ∈ s.splitOn '.') {c : Char} (hc : continuesIdentifier c = false) :
    c ∉ piece := by
  rw [isClassName, List.all_eq_true] at h
  intro hmem
  have hcontinues := mem_of_isIdentifier (h piece hpiece) hmem
  exact Bool.false_ne_true (hc.symm.trans hcontinues)

/-- The path of the file of a class is made of the pieces of its name: of all if the name begins
with a dollar sign, else of those up to the first dollar sign.  So the file is the one of the
outermost class in the same package just if a name that begins with a dollar sign has none later in
the class, and any other name has none in the package and none at the start of the class. -/
theorem sourcePath_declaring {className : String} {package : List (List Char)} {last : List Char}
    (hclass : checkClass className = .ok ())
    (hpieces : className.toList.splitOn '.' = package ++ [last]) :
    let kept := if className.toList.head? = some '$' then package ++ [last]
      else upToDollar (package ++ [last])
    sourcePath className = .ok (fileOf kept) ∧
      (withoutNested last ≠ [] ∧ withoutNested last <+: last) ∧
      (fileOf kept = fileOf (package ++ [withoutNested last]) ↔
        if className.toList.head? = some '$' then '$' ∉ last.tail
        else (∀ piece ∈ package, '$' ∉ piece) ∧ last.head? ≠ some '$') := by
  intro kept
  have h : isClassName className.toList = true := checkClass_eq_ok_iff.mp hclass
  have hplain : ∀ piece ∈ package ++ [last], '/' ∉ piece := by
    rw [← hpieces]
    exact fun piece hpiece => not_mem_of_piece h hpiece rfl
  have hlast : last ≠ [] := pieces_ne_nil h last (by simp [hpieces])
  have hsome : package ++ [last] ≠ [] := by simp
  have houter : ∀ piece ∈ package ++ [withoutNested last], '/' ∉ piece := by
    rw [List.forall_mem_append, List.forall_mem_singleton] at hplain ⊢
    exact ⟨hplain.1, fun hslash => hplain.2 ((withoutNested_initial last).subset hslash)⟩
  refine ⟨?_, ⟨withoutNested_ne_nil hlast, withoutNested_initial last⟩, ?_⟩
  · rw [sourcePath_eq hclass, filePath_eq_of_splitOn hpieces]
  · by_cases hdollar : className.toList.head? = some '$'
    · have hkept : kept = package ++ [last] := if_pos hdollar
      rw [if_pos hdollar, hkept, fileOf_inj hsome (by simp) hplain houter,
        List.append_cancel_left_eq, List.singleton_inj, eq_comm, withoutNested_eq_self_iff]
    · have hkept : kept = upToDollar (package ++ [last]) := if_neg hdollar
      have hcut : ∀ piece ∈ upToDollar (package ++ [last]), '/' ∉ piece := by
        intro piece hpiece hslash
        obtain ⟨whole, hwhole, hbegins⟩ := exists_of_mem_upToDollar hpiece
        exact hplain whole hwhole (hbegins.subset hslash)
      rw [if_neg hdollar, hkept, fileOf_inj (upToDollar_ne_nil hsome) (by simp) hcut houter,
        upToDollar_eq_iff hlast]

/-- A nested class with a dollar sign of its own is in the file of its outermost class, in the
package. -/
theorem sourcePath_declaring_nested :
    sourcePath "a.b.Outer$Inner" = .ok (fileOf ["a".toList, "b".toList, "Outer".toList]) := by
  obtain ⟨hpath, -, hfile⟩ :=
    sourcePath_declaring (by decide : checkClass "a.b.Outer$Inner" = .ok ())
      (by decide : _ = ["a".toList, "b".toList] ++ ["Outer$Inner".toList])
  rw [hpath, hfile.mpr (by decide)]
  rfl

/-- A class in a package that begins with a dollar sign is lost from the path. -/
theorem sourcePath_loses_class :
    ¬ ∀ (className : String) (package : List (List Char)) (last : List Char),
      checkClass className = .ok () → className.toList.splitOn '.' = package ++ [last] →
        sourcePath className = .ok (fileOf (package ++ [withoutNested last])) := by
  intro h
  have hfile := h "a.$B" ["a".toList] "$B".toList (by decide) (by decide)
  have hpath : sourcePath "a.$B" = .ok "a/.java" := by decide
  rw [hpath] at hfile
  exact absurd hfile (by decide)

end Name

end Breakpoints
