/-!
Finite maps kept as a list in ascending key order.  Two tables with the same look-ups are equal,
so the order of a listing never depends on the order of insertion.
-/

namespace Breakpoints

/-- A finite map whose entries stand in strictly ascending key order. -/
structure Table (κ ν : Type) [Ord κ] where
  entries : List (κ × ν)
  ascending : entries.Pairwise fun a b => compare a.1 b.1 = .lt

namespace Table

variable {κ ν : Type} [Ord κ]

/-- Adds an entry to an ordered list, replacing the entry with that key. -/
def insertEntry (k : κ) (v : ν) : List (κ × ν) → List (κ × ν)
  | [] => [(k, v)]
  | e :: rest =>
    match compare k e.1 with
    | .lt => (k, v) :: e :: rest
    | .eq => (k, v) :: rest
    | .gt => e :: insertEntry k v rest

/-- The value at a key in a list of entries. -/
def findIn? (k : κ) : List (κ × ν) → Option ν
  | [] => none
  | e :: rest => if compare k e.1 = .eq then some e.2 else findIn? k rest

theorem mem_insertEntry {k : κ} {v : ν} {e : κ × ν} {l : List (κ × ν)}
    (h : e ∈ insertEntry k v l) : e = (k, v) ∨ e ∈ l := by
  induction l with
  | nil => simpa [insertEntry] using h
  | cons e' rest ih =>
    rw [insertEntry] at h
    split at h
    · exact (List.mem_cons.mp h).imp_right id
    · exact (List.mem_cons.mp h).imp_right (List.mem_cons_of_mem e')
    · rcases List.mem_cons.mp h with rfl | h
      · exact .inr List.mem_cons_self
      · exact (ih h).imp_right (List.mem_cons_of_mem e')

theorem insertEntry_ascending [Std.TransOrd κ] [Std.LawfulEqOrd κ] (k : κ) (v : ν)
    {l : List (κ × ν)} (h : l.Pairwise fun a b => compare a.1 b.1 = .lt) :
    (insertEntry k v l).Pairwise fun a b => compare a.1 b.1 = .lt := by
  induction l with
  | nil => simp [insertEntry]
  | cons e rest ih =>
    obtain ⟨below, hrest⟩ := List.pairwise_cons.mp h
    rw [insertEntry]
    split
    next hk =>
      refine List.pairwise_cons.mpr ⟨fun a ha => ?_, h⟩
      rcases List.mem_cons.mp ha with rfl | ha
      · exact hk
      · exact Std.TransCmp.lt_trans hk (below a ha)
    next hk =>
      refine List.pairwise_cons.mpr ⟨fun a ha => ?_, hrest⟩
      rw [Std.LawfulEqCmp.compare_eq_iff_eq.mp hk]
      exact below a ha
    next hk =>
      refine List.pairwise_cons.mpr ⟨fun a ha => ?_, ih hrest⟩
      rcases mem_insertEntry ha with rfl | ha
      · exact Std.OrientedCmp.gt_iff_lt.mp hk
      · exact below a ha

def empty : Table κ ν := ⟨[], .nil⟩

instance : EmptyCollection (Table κ ν) := ⟨empty⟩

instance : Inhabited (Table κ ν) := ⟨empty⟩

/-- The value at a key. -/
def find? (t : Table κ ν) (k : κ) : Option ν :=
  findIn? k t.entries

def contains (t : Table κ ν) (k : κ) : Bool :=
  (t.find? k).isSome

def keys (t : Table κ ν) : List κ :=
  t.entries.map (·.1)

def values (t : Table κ ν) : List ν :=
  t.entries.map (·.2)

def size (t : Table κ ν) : Nat :=
  t.entries.length

/-- Sets the value at a key. -/
def insert [Std.TransOrd κ] [Std.LawfulEqOrd κ] (t : Table κ ν) (k : κ) (v : ν) : Table κ ν :=
  ⟨insertEntry k v t.entries, insertEntry_ascending k v t.ascending⟩

/-- Removes a key; a table without it stays as it is. -/
def erase (t : Table κ ν) (k : κ) : Table κ ν :=
  ⟨t.entries.filter fun e => compare k e.1 != .eq, t.ascending.filter _⟩

/-- Applies `f` to the value at a key, if the key is there. -/
def modify [Std.TransOrd κ] [Std.LawfulEqOrd κ] (t : Table κ ν) (k : κ) (f : ν → ν) : Table κ ν :=
  match t.find? k with
  | some v => t.insert k (f v)
  | none => t

/-- Inserts entries from left to right. -/
def ofList [Std.TransOrd κ] [Std.LawfulEqOrd κ] (l : List (κ × ν)) : Table κ ν :=
  l.foldl (fun t e => t.insert e.1 e.2) empty

theorem find?_empty (k : κ) : (empty : Table κ ν).find? k = none := rfl

theorem findIn?_filter_self (k : κ) (l : List (κ × ν)) :
    findIn? k (l.filter fun e => compare k e.1 != .eq) = none := by
  induction l with
  | nil => rfl
  | cons e rest ih =>
    by_cases hk : compare k e.1 = .eq
    · simp [hk, ih]
    · simp [hk, findIn?, ih]

@[simp] theorem find?_erase_self (t : Table κ ν) (k : κ) : (t.erase k).find? k = none :=
  findIn?_filter_self k t.entries

section Lemmas

variable [Std.LawfulEqOrd κ]

theorem findIn?_insertEntry_self (k : κ) (v : ν) (l : List (κ × ν)) :
    findIn? k (insertEntry k v l) = some v := by
  induction l with
  | nil => simp [insertEntry, findIn?]
  | cons e rest ih =>
    rw [insertEntry]
    split
    · simp [findIn?]
    · simp [findIn?]
    next hk => simp [findIn?, hk, ih]

theorem findIn?_insertEntry_of_ne {j k : κ} (v : ν) (hne : j ≠ k) (l : List (κ × ν)) :
    findIn? j (insertEntry k v l) = findIn? j l := by
  induction l with
  | nil => simp [insertEntry, findIn?, hne]
  | cons e rest ih =>
    rw [insertEntry]
    split
    · simp [findIn?, hne]
    next hk =>
      have heq : k = e.1 := Std.LawfulEqCmp.compare_eq_iff_eq.mp hk
      simp [findIn?, hne, ← heq]
    · simp [findIn?, ih]

@[simp] theorem find?_insert_self [Std.TransOrd κ] (t : Table κ ν) (k : κ) (v : ν) :
    (t.insert k v).find? k = some v :=
  findIn?_insertEntry_self k v t.entries

theorem find?_insert_of_ne [Std.TransOrd κ] (t : Table κ ν) {j k : κ} (v : ν) (hne : j ≠ k) :
    (t.insert k v).find? j = t.find? j :=
  findIn?_insertEntry_of_ne v hne t.entries

theorem findIn?_filter_of_ne {j k : κ} (hne : j ≠ k) (l : List (κ × ν)) :
    findIn? j (l.filter fun e => compare k e.1 != .eq) = findIn? j l := by
  induction l with
  | nil => rfl
  | cons e rest ih =>
    by_cases hk : compare k e.1 = .eq
    · have heq : k = e.1 := Std.LawfulEqCmp.compare_eq_iff_eq.mp hk
      simp [findIn?, ih, ← heq, hne]
    · simp [hk, findIn?, ih]

theorem find?_erase_of_ne (t : Table κ ν) {j k : κ} (hne : j ≠ k) :
    (t.erase k).find? j = t.find? j :=
  findIn?_filter_of_ne hne t.entries

end Lemmas

end Table

/-- A set of ids in ascending order. -/
abbrev IdSet := Table Nat Unit

namespace IdSet

def add (s : IdSet) (id : Nat) : IdSet := Table.insert s id ()

def remove (s : IdSet) (id : Nat) : IdSet := Table.erase s id

def has (s : IdSet) (id : Nat) : Bool := Table.contains s id

def toList (s : IdSet) : List Nat := Table.keys s

end IdSet

end Breakpoints
