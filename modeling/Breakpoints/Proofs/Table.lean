import Breakpoints.Table
import Mathlib.Data.List.Basic

/-!
Look-ups in tables.  Every operation is described by what it does to look-ups, and two tables with
the same look-ups are equal, so later proofs never open the list of entries.
-/

namespace Breakpoints

namespace Table

variable {κ ν : Type} [Ord κ]

section Entries

theorem findIn?_eq_none_iff {k : κ} {l : List (κ × ν)} :
    findIn? k l = none ↔ ∀ e ∈ l, compare k e.1 ≠ .eq := by
  induction l with
  | nil => simp [findIn?]
  | cons e rest ih =>
      by_cases hk : compare k e.1 = .eq
      · simp [findIn?, hk]
      · simp [findIn?, hk, ih]

theorem findIn?_map {μ : Type} (f : ν → μ) (k : κ) (l : List (κ × ν)) :
    findIn? k (l.map fun e => (e.1, f e.2)) = (findIn? k l).map f := by
  induction l with
  | nil => rfl
  | cons e rest ih =>
      rw [List.map_cons, findIn?, findIn?]
      split
      · rfl
      · exact ih

/-- The key of the first entry does not come again in the rest. -/
theorem findIn?_rest_eq_none {e : κ × ν} {rest : List (κ × ν)}
    (h : (e :: rest).Pairwise fun a b => compare a.1 b.1 = .lt) :
    findIn? e.1 rest = none := by
  rw [findIn?_eq_none_iff]
  intro later hlater heq
  have hlt := (List.pairwise_cons.mp h).1 later hlater
  rw [heq] at hlt
  contradiction

theorem length_insertEntry {k : κ} (v : ν) {l : List (κ × ν)} (h : findIn? k l = none) :
    (insertEntry k v l).length = l.length + 1 := by
  induction l with
  | nil => rfl
  | cons e rest ih =>
      by_cases hk : compare k e.1 = .eq
      · simp [findIn?, hk] at h
      · rw [findIn?, if_neg hk] at h
        rw [insertEntry]
        split
        · rfl
        · contradiction
        · simp [ih h]

theorem insertEntry_of_above {k : κ} (v : ν) {l : List (κ × ν)}
    (h : ∀ e ∈ l, compare k e.1 = .gt) : insertEntry k v l = l ++ [(k, v)] := by
  induction l with
  | nil => rfl
  | cons e rest ih =>
      rw [List.forall_mem_cons] at h
      rw [insertEntry, h.1, List.cons_append]
      exact congrArg (e :: ·) (ih h.2)

variable [Std.LawfulEqOrd κ]

theorem mem_of_findIn? {k : κ} {v : ν} {l : List (κ × ν)} (h : findIn? k l = some v) :
    (k, v) ∈ l := by
  induction l with
  | nil => simp [findIn?] at h
  | cons e rest ih =>
      by_cases hk : compare k e.1 = .eq
      · have heq : k = e.1 := Std.LawfulEqCmp.compare_eq_iff_eq.mp hk
        rw [findIn?, if_pos hk] at h
        cases h
        rw [heq]
        exact List.mem_cons_self
      · rw [findIn?, if_neg hk] at h
        exact List.mem_cons_of_mem e (ih h)

theorem length_filter_add_one {k : κ} {v : ν} {l : List (κ × ν)}
    (hl : l.Pairwise fun a b => compare a.1 b.1 = .lt) (h : findIn? k l = some v) :
    (l.filter fun e => compare k e.1 != .eq).length + 1 = l.length := by
  induction l with
  | nil => simp [findIn?] at h
  | cons e rest ih =>
      by_cases hk : compare k e.1 = .eq
      · have heq : k = e.1 := Std.LawfulEqCmp.compare_eq_iff_eq.mp hk
        subst heq
        have hnone := findIn?_rest_eq_none hl
        have hkept : rest.filter (fun later => compare e.1 later.1 != .eq) = rest := by
          rw [List.filter_eq_self]
          intro later hlater
          simpa using findIn?_eq_none_iff.mp hnone later hlater
        simp [hkept]
      · rw [findIn?, if_neg hk] at h
        simp [hk, ih hl.of_cons h]

theorem findIn?_of_mem {e : κ × ν} {l : List (κ × ν)}
    (hl : l.Pairwise fun a b => compare a.1 b.1 = .lt) (he : e ∈ l) : findIn? e.1 l = some e.2 := by
  induction l with
  | nil => contradiction
  | cons first rest ih =>
      rcases List.mem_cons.mp he with rfl | hlater
      · rw [findIn?, if_pos Std.ReflCmp.compare_self]
      · have hne : compare e.1 first.1 ≠ .eq := by
          intro heq
          have hlt := (List.pairwise_cons.mp hl).1 e hlater
          rw [Std.LawfulEqCmp.compare_eq_iff_eq.mp heq] at hlt
          simp at hlt
        rw [findIn?, if_neg hne]
        exact ih hl.of_cons hlater

variable [Std.TransOrd κ]

/-- In ascending lists the look-ups determine the entries. -/
theorem entries_ext {l₁ l₂ : List (κ × ν)}
    (h₁ : l₁.Pairwise fun a b => compare a.1 b.1 = .lt)
    (h₂ : l₂.Pairwise fun a b => compare a.1 b.1 = .lt)
    (h : ∀ k, findIn? k l₁ = findIn? k l₂) : l₁ = l₂ := by
  induction l₁ generalizing l₂ with
  | nil =>
      cases l₂ with
      | nil => rfl
      | cons e rest => simpa [findIn?] using h e.1
  | cons e₁ rest₁ ih =>
      cases l₂ with
      | nil => simpa [findIn?] using h e₁.1
      | cons e₂ rest₂ =>
          -- a smaller first key on one side could not be found on the other
          have hfound₁ : (e₁.1, e₁.2) ∈ e₂ :: rest₂ :=
            mem_of_findIn? ((h e₁.1).symm.trans (by simp [findIn?]))
          have hfound₂ : (e₂.1, e₂.2) ∈ e₁ :: rest₁ :=
            mem_of_findIn? ((h e₂.1).trans (by simp [findIn?]))
          have hhead : e₁ = e₂ := by
            rcases List.mem_cons.mp hfound₁ with heq | hlater₁
            · exact heq
            · rcases List.mem_cons.mp hfound₂ with heq | hlater₂
              · exact heq.symm
              · have hlt₁ := (List.pairwise_cons.mp h₁).1 _ hlater₂
                have hlt₂ := (List.pairwise_cons.mp h₂).1 _ hlater₁
                have hself := Std.TransCmp.lt_trans hlt₁ hlt₂
                simp at hself
          subst hhead
          have hrest : rest₁ = rest₂ := by
            apply ih h₁.of_cons h₂.of_cons
            intro k
            by_cases hk : compare k e₁.1 = .eq
            · rw [Std.LawfulEqCmp.compare_eq_iff_eq.mp hk, findIn?_rest_eq_none h₁,
                findIn?_rest_eq_none h₂]
            · simpa [findIn?, hk] using h k
          rw [hrest]

end Entries

theorem contains_eq_true_iff {t : Table κ ν} {k : κ} :
    t.contains k = true ↔ ∃ v, t.find? k = some v :=
  Option.isSome_iff_exists

theorem contains_eq_false_iff {t : Table κ ν} {k : κ} :
    t.contains k = false ↔ t.find? k = none := by
  rw [contains, Option.isSome_eq_false_iff, Option.isNone_iff_eq_none]

@[simp] theorem find?_emptyCollection (k : κ) : (∅ : Table κ ν).find? k = none := rfl

/-- The table with `f` applied to all values. -/
def map {μ : Type} (f : ν → μ) (t : Table κ ν) : Table κ μ where
  entries := t.entries.map fun e => (e.1, f e.2)
  ascending := List.pairwise_map.mpr t.ascending

theorem find?_map {μ : Type} (f : ν → μ) (t : Table κ ν) (k : κ) :
    (t.map f).find? k = (t.find? k).map f :=
  findIn?_map f k t.entries

theorem keys_map {μ : Type} (f : ν → μ) (t : Table κ ν) : (t.map f).keys = t.keys := by
  rw [keys, keys, map, List.map_map]
  rfl

theorem values_map {μ : Type} (f : ν → μ) (t : Table κ ν) : (t.map f).values = t.values.map f := by
  rw [values, values, map, List.map_map, List.map_map]
  rfl

variable [Std.LawfulEqOrd κ]

theorem find?_erase [DecidableEq κ] (t : Table κ ν) (k j : κ) :
    (t.erase k).find? j = if j = k then none else t.find? j := by
  split
  next heq => rw [heq, find?_erase_self]
  next hne => exact find?_erase_of_ne t hne

theorem find?_foldl_erase [DecidableEq κ] (t : Table κ ν) (doomed : List κ) (j : κ) :
    (doomed.foldl erase t).find? j = if j ∈ doomed then none else t.find? j := by
  induction doomed generalizing t with
  | nil => simp
  | cons k rest ih =>
      rw [List.foldl_cons, ih, find?_erase]
      by_cases hk : j = k
      · simp [hk]
      · simp [hk]

theorem contains_erase [DecidableEq κ] (t : Table κ ν) (k j : κ) :
    (t.erase k).contains j = (decide (j ≠ k) && t.contains j) := by
  rw [contains, find?_erase]
  split
  next heq => simp [heq]
  next hne => simp [hne, contains]

theorem mem_keys_iff {t : Table κ ν} {k : κ} : k ∈ t.keys ↔ t.contains k = true := by
  rw [contains_eq_true_iff]
  constructor
  · intro hk
    obtain ⟨e, he, rfl⟩ := List.mem_map.mp hk
    by_contra hnone
    have hfind : findIn? e.1 t.entries = none := by
      simpa [find?, ← Option.eq_none_iff_forall_ne_some] using hnone
    exact findIn?_eq_none_iff.mp hfind e he Std.ReflCmp.compare_self
  · rintro ⟨v, hv⟩
    exact List.mem_map.mpr ⟨(k, v), mem_of_findIn? hv, rfl⟩

theorem size_erase_add_one {t : Table κ ν} {k : κ} (h : t.contains k = true) :
    (t.erase k).size + 1 = t.size := by
  obtain ⟨v, hv⟩ := contains_eq_true_iff.mp h
  exact length_filter_add_one t.ascending hv

theorem keys_nodup (t : Table κ ν) : t.keys.Nodup := by
  rw [keys, List.nodup_iff_pairwise_ne, List.pairwise_map]
  refine t.ascending.imp ?_
  intro a b hlt heq
  rw [heq] at hlt
  simp at hlt

/-- Tables with the same keys have the same size. -/
theorem size_congr {μ : Type} {s : Table κ ν} {t : Table κ μ}
    (h : ∀ k, s.contains k = t.contains k) : s.size = t.size := by
  have hperm : s.keys.Perm t.keys := by
    rw [List.perm_ext_iff_of_nodup s.keys_nodup t.keys_nodup]
    intro k
    rw [mem_keys_iff, mem_keys_iff, h k]
  simpa [keys, size] using hperm.length_eq

/-- The values are what the look-ups find. -/
theorem mem_values_iff [Std.TransOrd κ] {t : Table κ ν} {v : ν} :
    v ∈ t.values ↔ ∃ k, t.find? k = some v := by
  constructor
  · intro hv
    obtain ⟨e, he, rfl⟩ := List.mem_map.mp hv
    exact ⟨e.1, findIn?_of_mem t.ascending he⟩
  · rintro ⟨k, hk⟩
    exact List.mem_map.mpr ⟨(k, v), mem_of_findIn? hk, rfl⟩

variable [Std.TransOrd κ]

theorem ext_find? {s t : Table κ ν} (h : ∀ k, s.find? k = t.find? k) : s = t := by
  cases s with
  | mk entries₁ ascending₁ =>
      cases t with
      | mk entries₂ ascending₂ =>
          have hentries : entries₁ = entries₂ := entries_ext ascending₁ ascending₂ h
          subst hentries
          rfl

/-- The keys are determined by which there are. -/
theorem keys_congr {μ : Type} {s : Table κ ν} {t : Table κ μ}
    (h : ∀ k, s.contains k = t.contains k) : s.keys = t.keys := by
  have hbare : s.map (fun _ => ()) = t.map (fun _ => ()) := by
    apply ext_find?
    intro k
    have hk := h k
    rw [contains, contains] at hk
    rw [find?_map, find?_map]
    cases hs : s.find? k with
    | none =>
        cases ht : t.find? k with
        | none => rfl
        | some w => simp [hs, ht] at hk
    | some v =>
        cases ht : t.find? k with
        | none => simp [hs, ht] at hk
        | some w => rfl
  rw [← keys_map (fun _ => ()) s, hbare, keys_map]

/-- There is nothing to remove at a key that is not there. -/
theorem erase_of_find?_eq_none [DecidableEq κ] {t : Table κ ν} {k : κ} (h : t.find? k = none) :
    t.erase k = t := by
  apply ext_find?
  intro j
  rw [find?_erase]
  split
  next heq => rw [heq, h]
  next => rfl

section Lookup

variable [DecidableEq κ]

theorem find?_insert (t : Table κ ν) (k : κ) (v : ν) (j : κ) :
    (t.insert k v).find? j = if j = k then some v else t.find? j := by
  split
  next heq => rw [heq, find?_insert_self]
  next hne => exact find?_insert_of_ne t v hne

theorem find?_modify (t : Table κ ν) (k : κ) (f : ν → ν) (j : κ) :
    (t.modify k f).find? j = if j = k then (t.find? k).map f else t.find? j := by
  rw [modify]
  split
  next v hv => rw [find?_insert, hv, Option.map_some]
  next hnone =>
    split
    next heq => rw [heq, hnone, Option.map_none]
    next => rfl

/-- The later of two insertions at one key counts. -/
@[simp] theorem insert_insert (t : Table κ ν) (k : κ) (v w : ν) :
    (t.insert k v).insert k w = t.insert k w := by
  apply ext_find?
  intro j
  simp only [find?_insert]
  split <;> rfl

@[simp] theorem erase_insert (t : Table κ ν) (k : κ) (v : ν) :
    (t.insert k v).erase k = t.erase k := by
  apply ext_find?
  intro j
  simp only [find?_erase, find?_insert]
  split <;> rfl

theorem contains_insert (t : Table κ ν) (k : κ) (v : ν) (j : κ) :
    (t.insert k v).contains j = (decide (j = k) || t.contains j) := by
  rw [contains, find?_insert]
  split
  next heq => simp [heq]
  next hne => simp [hne, contains]

theorem contains_modify (t : Table κ ν) (k : κ) (f : ν → ν) (j : κ) :
    (t.modify k f).contains j = t.contains j := by
  rw [contains, find?_modify]
  split
  next heq => simp [heq, contains]
  next => rfl

end Lookup

theorem size_insert {t : Table κ ν} {k : κ} (v : ν) (h : t.contains k = false) :
    (t.insert k v).size = t.size + 1 :=
  length_insertEntry v (contains_eq_false_iff.mp h)

/-- A key above all others comes last. -/
theorem values_insert_of_above {t : Table κ ν} {k : κ} (v : ν)
    (h : ∀ j, t.contains j = true → compare k j = .gt) :
    (t.insert k v).values = t.values ++ [v] := by
  have habove : ∀ e ∈ t.entries, compare k e.1 = .gt := by
    intro e he
    exact h e.1 (mem_keys_iff.mp (List.mem_map_of_mem he))
  have hentries : (t.insert k v).entries = t.entries ++ [(k, v)] := insertEntry_of_above v habove
  rw [values, values, hentries, List.map_append]
  rfl

/-- Of entries that are inserted one after another, those with ascending keys all stay. -/
theorem find?_foldl_insert [DecidableEq κ] {l : List (κ × ν)}
    (hl : l.Pairwise fun a b => compare a.1 b.1 = .lt) (t : Table κ ν) (j : κ) :
    (l.foldl (fun t e => t.insert e.1 e.2) t).find? j = (findIn? j l).or (t.find? j) := by
  induction l generalizing t with
  | nil => rfl
  | cons e rest ih =>
      rw [List.foldl_cons, ih hl.of_cons, find?_insert, findIn?]
      by_cases hj : j = e.1
      · subst hj
        rw [if_pos rfl, if_pos Std.ReflCmp.compare_self, findIn?_rest_eq_none hl]
        rfl
      · rw [if_neg hj, if_neg (Std.LawfulEqCmp.compare_eq_iff_eq.not.mpr hj)]

/-- Inserting all entries of a table anew makes the same table. -/
theorem foldl_insert_entries [DecidableEq κ] (t : Table κ ν) :
    t.entries.foldl (fun s e => s.insert e.1 e.2) ∅ = t := by
  apply ext_find?
  intro j
  rw [find?_foldl_insert t.ascending, find?_emptyCollection, Option.or_none]
  rfl

end Table

namespace IdSet

theorem has_add (s : IdSet) (i j : Nat) : (s.add i).has j = (decide (j = i) || s.has j) :=
  Table.contains_insert s i () j

theorem has_remove (s : IdSet) (i j : Nat) :
    (s.remove i).has j = (decide (j ≠ i) && s.has j) :=
  Table.contains_erase s i j

/-- What comes to a set and leaves it again leaves no trace. -/
theorem remove_add {s : IdSet} {i : Nat} (h : s.has i = false) : (s.add i).remove i = s := by
  rw [remove, add, Table.erase_insert]
  exact Table.erase_of_find?_eq_none (Table.contains_eq_false_iff.mp h)

theorem ext_has {s t : IdSet} (h : ∀ id, s.has id = t.has id) : s = t := by
  apply Table.ext_find?
  intro id
  have hid : (s.find? id).isSome = (t.find? id).isSome := h id
  cases hs : s.find? id with
  | none =>
      rw [hs, Option.isSome_none, eq_comm, Option.isSome_eq_false_iff, Option.isNone_iff_eq_none]
        at hid
      exact hid.symm
  | some _ =>
      rw [hs, Option.isSome_some, eq_comm, Option.isSome_iff_exists] at hid
      obtain ⟨_, ht⟩ := hid
      exact ht.symm

theorem mem_toList {s : IdSet} {i : Nat} : i ∈ s.toList ↔ s.has i = true :=
  Table.mem_keys_iff

end IdSet

end Breakpoints
