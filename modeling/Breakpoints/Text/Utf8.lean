import Breakpoints.Text.CharTable

/-!
UTF-8: the bytes of a character, and a set of characters as sequences of byte ranges.
-/

namespace Breakpoints.Text

/-- The bytes of a code point. -/
def utf8Bytes (n : Nat) : List Nat :=
  if n < 0x80 then [n]
  else if n < 0x800 then [0xC0 + n / 0x40, 0x80 + n % 0x40]
  else if n < 0x10000 then [0xE0 + n / 0x1000, 0x80 + n / 0x40 % 0x40, 0x80 + n % 0x40]
  else [0xF0 + n / 0x40000, 0x80 + n / 0x1000 % 0x40, 0x80 + n / 0x40 % 0x40, 0x80 + n % 0x40]

/-- Cuts a range in front of a code point inside it. -/
def cutBefore (n : Nat) (range : Nat × Nat) : List (Nat × Nat) :=
  if range.1 < n ∧ n ≤ range.2 then [(range.1, n - 1), (n, range.2)] else [range]

/-- Cuts a range of several blocks into the parts before, in and after its whole blocks. -/
def cutAtBlocks (block : Nat) (range : Nat × Nat) : List (Nat × Nat) :=
  let (first, last) := range
  let start := (first + (block - 1)) / block * block
  let stop := (last + 1) / block * block
  if first / block = last / block then [range]
  else
    (if first < start then [(first, start - 1)] else []) ++
      (if start < stop then [(start, stop - 1)] else []) ++
      (if stop ≤ last then [(stop, last)] else [])

/-- Cuts a range of characters of more than one byte each into blocks of all sizes. -/
def cutAtAllBlocks (range : Nat × Nat) : List (Nat × Nat) :=
  [0x40, 0x1000, 0x40000].foldl (fun parts block => parts.flatMap (cutAtBlocks block)) [range]

/-- Cuts a range so that the characters of each part have as many bytes, and the byte at each place
takes all values of one range independently of the others. -/
def cutAtBytes (range : Nat × Nat) : List (Nat × Nat) :=
  let even := [0x80, 0x800, 0xD800, 0xE000, 0x10000].foldl
    (fun parts n => parts.flatMap (cutBefore n)) [range]
  let characters := even.filter fun part => part.1 < 0xD800 || 0xE000 ≤ part.1
  characters.flatMap fun part => if part.2 < 0x80 then [part] else cutAtAllBlocks part

/-- The sequences of byte ranges that spell the characters of a set. -/
def byteSequences (members : CharTable) : List (List (Nat × Nat)) :=
  (members.flatMap cutAtBytes).map fun part => (utf8Bytes part.1).zip (utf8Bytes part.2)

/-- The bytes of a text. -/
def utf8 (text : List Char) : List Nat :=
  text.flatMap fun c => utf8Bytes c.toNat

end Breakpoints.Text
