import Breakpoints.Proofs.Text
import Breakpoints.SourceKey

/-!
What the path of a key looks like, and what becomes of a key that is read once more.  The signs in
front of a path are dropped in a fixed order, first `./` and then slashes, so `./` stays if slashes
stood before it; it is dropped when the key is read again, and after that nothing is left to drop.
-/

namespace Breakpoints.SourceKey

section Segments

/-- A path without empty segments. -/
def Segmented (s : List Char) : Prop :=
  ∀ segment ∈ s.splitOn '/', segment ≠ []

variable {s : List Char}

theorem not_segmented_nil : ¬ Segmented [] := by
  intro h
  exact h [] (by simp) rfl

/-- A slash divides a path into two paths. -/
theorem segmented_append_iff (front rest : List Char) :
    Segmented (front ++ '/' :: rest) ↔ Segmented front ∧ Segmented rest := by
  have hsplit : (front ++ '/' :: rest).splitOn '/' = front.splitOn '/' ++ rest.splitOn '/' :=
    List.splitOn_append_cons_self front rest
  rw [Segmented, hsplit, List.forall_mem_append]
  rfl

theorem Segmented.ne_nil (h : Segmented s) : s ≠ [] := by
  rintro rfl
  exact not_segmented_nil h

theorem Segmented.head?_ne (h : Segmented s) : s.head? ≠ some '/' := by
  intro hhead
  obtain ⟨rest, rfl⟩ := List.head?_eq_some_iff.mp hhead
  have hfront : Segmented [] := ((segmented_append_iff [] rest).mp h).1
  exact not_segmented_nil hfront

theorem Segmented.getLast?_ne (h : Segmented s) : s.getLast? ≠ some '/' := by
  intro hlast
  obtain ⟨front, rfl⟩ := List.getLast?_eq_some_iff.mp hlast
  exact not_segmented_nil ((segmented_append_iff front []).mp h).2

end Segments

section Source

/-- The segments of a path, between its slashes. -/
def segments (path : String) : List (List Char) :=
  path.toList.splitOn '/'

theorem intercalate_segments (path : String) : ['/'].intercalate (segments path) = path.toList :=
  List.intercalate_splitOn '/'

theorem segments_inj {path other : String} (h : segments path = segments other) : path = other := by
  rw [← String.toList_inj, ← intercalate_segments path, h, intercalate_segments]

/-- A path has the segments of another behind its own when it is the other one, or ends in it
behind a slash. -/
theorem segments_suffix_iff {path tail : String} : segments tail <:+ segments path ↔
    path = tail ∨ ∃ front, path.toList = front ++ '/' :: tail.toList := by
  constructor
  · rintro ⟨front, hfront⟩
    by_cases hnone : front = []
    · rw [hnone, List.nil_append] at hfront
      exact .inl (segments_inj hfront.symm)
    · refine .inr ⟨['/'].intercalate front, ?_⟩
      have hsome : segments tail ≠ [] := List.splitOn_ne_nil '/' tail.toList
      rw [← intercalate_segments path, ← hfront, Text.intercalate_append hnone hsome,
        intercalate_segments, List.append_assoc, List.singleton_append]
  · rintro (rfl | ⟨front, hfront⟩)
    · exact List.suffix_refl _
    · rw [segments, segments, hfront, List.splitOn_append_cons_self]
      exact List.suffix_append _ _

/-- The last segment stands behind the last slash. -/
theorem lastSegment_eq_of_append {path tail : String} {front : List Char}
    (h : path.toList = front ++ '/' :: tail.toList) : lastSegment path = lastSegment tail := by
  have hstop : (tail.toList.reverse ++ '/' :: front.reverse).takeWhile (· ≠ '/') =
      tail.toList.reverse.takeWhile (· ≠ '/') := by
    induction tail.toList.reverse with
    | nil => rfl
    | cons c rest ih =>
        rw [List.cons_append, List.takeWhile_cons, List.takeWhile_cons, ih]
  rw [lastSegment, lastSegment, h, List.reverse_append, List.reverse_cons, List.append_assoc,
    List.singleton_append, hstop]

end Source

section Drop

/-- What the walk over the front of a path takes away. -/
def here : List Char := ['.', '/']

theorem dropHere_eq_self {s : List Char} (h : ¬ here <+: s) : dropHere s = s := by
  fun_cases dropHere s with
  | case1 rest => exact absurd ⟨rest, rfl⟩ h
  | case2 s => rfl

theorem not_here_dropHere (s : List Char) : ¬ here <+: dropHere s := by
  fun_induction dropHere s with
  | case1 rest ih => exact ih
  | case2 s hother =>
      rintro ⟨rest, rfl⟩
      exact hother rest rfl

theorem dropHere_suffix (s : List Char) : dropHere s <:+ s := by
  fun_induction dropHere s with
  | case1 rest ih => exact ih.trans ⟨here, rfl⟩
  | case2 s => exact List.suffix_refl s

/-- Something is dropped exactly if there is something to drop. -/
theorem dropHere_eq_self_iff {s : List Char} : dropHere s = s ↔ ¬ here <+: s := by
  refine ⟨fun h => ?_, dropHere_eq_self⟩
  rw [← h]
  exact not_here_dropHere s

/-- What starts no path is not dropped. -/
theorem mem_dropHere {s : List Char} {c : Char} (h : c ∈ s) (hdot : c ≠ '.') (hslash : c ≠ '/') :
    c ∈ dropHere s := by
  fun_induction dropHere s with
  | case1 rest ih =>
      simp only [List.mem_cons, hdot, hslash, false_or] at h
      exact ih h
  | case2 s => exact h

theorem Segmented.dropHere {s : List Char} (h : Segmented s) : Segmented (dropHere s) := by
  fun_induction SourceKey.dropHere s with
  | case1 rest ih => exact ih ((segmented_append_iff ['.'] rest).mp h).2
  | case2 s => exact h

end Drop

theorem mem_normalise {path : List Char} {c : Char} (h : c ∈ path) (hdot : c ≠ '.')
    (hslash : c ≠ '/') (hback : c ≠ '\\') : c ∈ normalise path := by
  have hforward : c ∈ forwardSlashes path := List.mem_map.mpr ⟨c, h, by rw [if_neg hback]⟩
  have hkept : c ∈ dropHere (forwardSlashes path) := mem_dropHere hforward hdot hslash
  rw [← List.takeWhile_append_dropWhile (p := (· = '/')) (l := dropHere _), List.mem_append]
    at hkept
  rcases hkept with htaken | hkept
  · have heq := List.mem_takeWhile_imp htaken
    exact absurd (by simpa using heq) hslash
  · exact hkept

/-- What every path of a key looks like. -/
structure PathForm (s : List Char) : Prop where
  segments : Segmented s
  plain : ∀ c ∈ s, c ≠ '\\' ∧ Text.isControl c = false ∧ c ≠ '?' ∧ c ≠ '#'

theorem isKeyPath_iff {s : List Char} : isKeyPath s = true ↔
    Segmented s ∧ ∀ c ∈ s, Text.isControl c = false ∧ c ≠ '?' ∧ c ≠ '#' := by
  simp [isKeyPath, Segmented, and_assoc]

theorem not_mem_normalise (s : List Char) : '\\' ∉ normalise s := by
  intro hmem
  have hforward : '\\' ∈ forwardSlashes s :=
    (dropHere_suffix _).subset ((List.dropWhile_suffix _).subset hmem)
  obtain ⟨c, -, hc⟩ := List.mem_map.mp hforward
  split at hc
  · contradiction
  · contradiction

namespace PathForm

variable {s : List Char}

theorem normalise (h : isKeyPath (normalise s) = true) : PathForm (normalise s) where
  segments := (isKeyPath_iff.mp h).1
  plain c hc := by
    refine ⟨?_, (isKeyPath_iff.mp h).2 c hc⟩
    rintro rfl
    exact not_mem_normalise s hc

theorem isKeyPath (h : PathForm s) : isKeyPath s = true :=
  isKeyPath_iff.mpr ⟨h.segments, fun c hc => (h.plain c hc).2⟩

theorem dropHere (h : PathForm s) : PathForm (dropHere s) where
  segments := h.segments.dropHere
  plain c hc := h.plain c ((dropHere_suffix s).subset hc)

theorem forwardSlashes_eq (h : PathForm s) : forwardSlashes s = s :=
  Text.map_exchange_eq_self fun hmem => (h.plain _ hmem).1 rfl

/-- Only `./` is dropped from a path that was read before. -/
theorem normalise_eq (h : PathForm s) : SourceKey.normalise s = SourceKey.dropHere s := by
  rw [SourceKey.normalise, h.forwardSlashes_eq]
  apply Text.dropWhile_eq_self
  intro c hc
  by_contra hslash
  rw [Bool.not_eq_false, decide_eq_true_eq] at hslash
  exact h.dropHere.segments.head?_ne (hslash ▸ hc)

end PathForm

theorem ofPath_eq_ok_iff {path : String} {key : SourceKey} : ofPath path = .ok key ↔
    isKeyPath (normalise path.toList) = true ∧
      key.path = String.ofList (normalise path.toList) := by
  simp only [ofPath]
  split
  next h =>
    rw [Except.ok.injEq, and_iff_right h, eq_comm]
    exact SourceKey.mk.injEq .. ▸ Iff.rfl
  next h => simp [h]

theorem pathForm_of_ofPath {path : String} {key : SourceKey} (h : ofPath path = .ok key) :
    PathForm key.path.toList := by
  obtain ⟨hform, hpath⟩ := ofPath_eq_ok_iff.mp h
  rw [hpath, String.toList_ofList]
  exact .normalise hform

/-- What a key becomes when it is read again. -/
def reread (key : SourceKey) : SourceKey :=
  ⟨String.ofList (dropHere key.path.toList)⟩

theorem toList_reread (key : SourceKey) :
    key.reread.path.toList = dropHere key.path.toList :=
  String.toList_ofList

theorem reread_eq_self_iff {key : SourceKey} : key.reread = key ↔ ¬ here <+: key.path.toList := by
  rw [← dropHere_eq_self_iff, ← toList_reread, String.toList_inj]
  cases key
  cases hreread : reread _
  rw [mk.injEq]

/-- A key that was read again is not changed any more. -/
theorem reread_reread (key : SourceKey) : key.reread.reread = key.reread := by
  rw [reread_eq_self_iff, toList_reread]
  exact not_here_dropHere key.path.toList

theorem PathForm.reread {key : SourceKey} (h : PathForm key.path.toList) :
    PathForm key.reread.path.toList := by
  rw [toList_reread]
  exact h.dropHere

/-- The key for a path that was read before. -/
theorem ofPath_path {key : SourceKey} (h : PathForm key.path.toList) :
    ofPath key.path = .ok key.reread := by
  rw [ofPath_eq_ok_iff, h.normalise_eq]
  exact ⟨h.dropHere.isKeyPath, rfl⟩

theorem ofPath_eq_self {key : SourceKey} (h : PathForm key.path.toList)
    (hhere : ¬ here <+: key.path.toList) : ofPath key.path = .ok key := by
  rw [ofPath_path h, reread_eq_self_iff.mpr hhere]

def backSlashes (s : List Char) : List Char :=
  s.map fun c => if c = '/' then '\\' else c

theorem forwardSlashes_backSlashes {s : List Char} (h : '\\' ∉ s) :
    forwardSlashes (backSlashes s) = forwardSlashes s := by
  rw [forwardSlashes, backSlashes, List.map_map, forwardSlashes]
  apply List.map_congr_left
  intro c hc
  have hback : c ≠ '\\' := by
    rintro rfl
    exact h hc
  by_cases hslash : c = '/'
  · simp [hslash]
  · simp [hslash, hback]

theorem backSlashes_eq_self {s : List Char} (h : '/' ∉ s) : backSlashes s = s :=
  Text.map_exchange_eq_self h

theorem mem_backSlashes {s : List Char} {c : Char} (h : c ∈ backSlashes s) : c = '\\' ∨ c ∈ s := by
  obtain ⟨x, hx, rfl⟩ := List.mem_map.mp h
  by_cases hslash : x = '/'
  · exact .inl (if_pos hslash)
  · rw [if_neg hslash]
    exact .inr hx

/-- A path makes the same key with backslashes. -/
theorem ofPath_backSlashes {path : String} {key : SourceKey} (hback : '\\' ∉ path.toList)
    (h : ofPath path = .ok key) : ofPath (String.ofList (backSlashes path.toList)) = .ok key := by
  rw [ofPath_eq_ok_iff] at h ⊢
  rw [String.toList_ofList, normalise, forwardSlashes_backSlashes hback]
  exact h

/-- A key that is written out is read by its path. -/
theorem ofText_url (key : SourceKey) : ofText key.url = ofPath key.path := by
  have hpath : scheme.toList.isPrefixOf? key.url.toList = some key.path.toList := by
    rw [List.isPrefixOf?_eq_some_iff_append_eq, url, String.toList_append]
  simp only [ofText, hpath, String.ofList_toList]

end Breakpoints.SourceKey
