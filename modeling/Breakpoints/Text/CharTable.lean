/-!
Classes of characters given as ascending ranges of code points, and the set operations on them.
-/

namespace Breakpoints.Text

/-- Ranges of code points, both ends included, in ascending order. -/
abbrev CharTable := List (Nat × Nat)

namespace CharTable

/-- Membership of a code point; the search ends at the first range above it. -/
def hasCode : CharTable → Nat → Bool
  | [], _ => false
  | (first, last) :: rest, n =>
    if n < first then false else n ≤ last || hasCode rest n

/-- Membership of a character. -/
def has (table : CharTable) (c : Char) : Bool :=
  table.hasCode c.toNat

/-- The table of one character. -/
def single (c : Char) : CharTable :=
  [(c.toNat, c.toNat)]

/-- Adds a range in front of a table whose ranges may overlap or touch it, and joins those that
do.  The range begins no later than the table. -/
def joinFrom (first last : Nat) : CharTable → CharTable
  | [] => [(first, last)]
  | (next, stop) :: rest =>
    if next ≤ last + 1 then joinFrom first (max last stop) rest
    else (first, last) :: joinFrom next stop rest

/-- Joins ranges in order of their beginnings so that no two overlap or touch. -/
def join : CharTable → CharTable
  | [] => []
  | (first, last) :: rest => joinFrom first last rest

/-- The table of ranges in any order. -/
def ofRanges (ranges : List (Nat × Nat)) : CharTable :=
  join (ranges.mergeSort fun a b => a.1 ≤ b.1)

def union (s t : CharTable) : CharTable :=
  ofRanges (s ++ t)

/-- The code point of the next character.  The code points from D800 to DFFF are no characters. -/
def after (n : Nat) : Nat :=
  if n = 0xD7FF then 0xE000 else n + 1

/-- The code point of the character before. -/
def before (n : Nat) : Nat :=
  if n = 0xE000 then 0xD7FF else n - 1

/-- The characters between one range and the next.  No character stands between D7FF and E000; of
ranges that end and begin there the gap is these two. -/
def gap (stop start : Nat) : Nat × Nat :=
  (min (after stop) (before start), max (after stop) (before start))

/-- The gaps of a table after a range that ends at `stop`. -/
def gapsAfter (stop : Nat) : CharTable → CharTable
  | [] => if stop < 0x10FFFF then [(after stop, 0x10FFFF)] else []
  | (first, last) :: rest => gap stop first :: gapsAfter last rest

/-- All other characters.  The two characters of a gap without characters are on both sides, so the
ranges may touch. -/
def complement : CharTable → CharTable
  | [] => [(0, 0x10FFFF)]
  | (first, last) :: rest =>
    (if 0 < first then [(0, before first)] else []) ++ gapsAfter last rest

/-- The common characters of two tables. -/
def intersection : CharTable → CharTable → CharTable
  | [], _ => []
  | (first, last) :: rest, t =>
    let t := t.dropWhile fun r => r.2 < first
    ((t.takeWhile fun r => r.1 ≤ last).map fun r => (max first r.1, min last r.2)) ++
      intersection rest t

/-- The characters from `first` to `last` that a table leaves out.  No range of the table ends
before `first`. -/
def rangeWithout (first last : Nat) : CharTable → CharTable
  | [] => [(first, last)]
  | (start, stop) :: rest =>
    if last < start then [(first, last)]
    else
      (if first < start then [(first, before start)] else []) ++
        (if stop < last then rangeWithout (after stop) last rest else [])

/-- The members of the first table alone. -/
def difference : CharTable → CharTable → CharTable
  | [], _ => []
  | (first, last) :: rest, t =>
    let t := t.dropWhile fun r => r.2 < first
    rangeWithout first last t ++ difference rest t

/-- The members of exactly one of two tables. -/
def symmetricDifference (s t : CharTable) : CharTable :=
  difference (union s t) (intersection s t)

/-- The ranges that reach into the range from `first` to `last`. -/
def near (t : CharTable) (first last : Nat) : CharTable :=
  (t.dropWhile fun r => r.2 < first).takeWhile fun r => r.1 ≤ last

end CharTable

end Breakpoints.Text
