import Breakpoints.Regex.Basic
import Breakpoints.Regex.CharSets
import Breakpoints.Text.Numeral

/-!
Escapes of regular expressions: sets with a letter, characters by code point, and word boundaries.
-/

namespace Breakpoints.Regex

open Text (CharTable)

/-- What an escape stands for. -/
inductive Escape where
  | char (c : Char)
  | set (members : CharTable)
  | assertion (a : Assertion)
deriving Repr

/-- The character with a code point in hexadecimal digits. -/
def hexChar? (digits : List Char) : Option Char := do
  if digits.isEmpty then none
  let n ← Text.hexValue? digits
  if n < 0xD800 ∨ (0xE000 ≤ n ∧ n < 0x110000) then some (Char.ofNat n) else none

/-- A code point of a fixed number of digits, or of any number in braces. -/
def readHex (count : Nat) : List Char → Option (Char × List Char)
  | '\x7b' :: r =>
    match r.span (· ≠ '\x7d') with
    | (digits, _ :: rest) => (hexChar? digits).map fun c => (c, rest)
    | _ => none
  | s =>
    if (s.take count).length < count then none
    else (hexChar? (s.take count)).map fun c => (c, s.drop count)

/-- A word boundary with a name in braces, after `\b`. -/
def readBoundary (s : List Char) : Assertion × List Char :=
  let named := [("\x7bstart\x7d", Assertion.wordStart), ("\x7bend\x7d", Assertion.wordEnd),
    ("\x7bstart-half\x7d", Assertion.noWordBefore), ("\x7bend-half\x7d", Assertion.noWordAfter)]
  match named.findSome? fun (name, a) => (name.toList.isPrefixOf? s).map fun rest => (a, rest) with
  | some found => found
  | none => (.boundary, s)

/-- An escape after its backslash.  A letter or digit needs a meaning of its own; any other ASCII
character stands for itself. -/
def readEscape : List Char → Option (Escape × List Char)
  | [] => none
  | c :: rest =>
    match c with
    | 'd' => some (.set digits, rest)
    | 's' => some (.set Text.blanks, rest)
    | 'w' => some (.set wordChars, rest)
    | 'D' => some (.set digits.complement, rest)
    | 'S' => some (.set Text.blanks.complement, rest)
    | 'W' => some (.set wordChars.complement, rest)
    | 'a' => some (.char '\x07', rest)
    | 'f' => some (.char '\x0c', rest)
    | 'n' => some (.char '\n', rest)
    | 'r' => some (.char '\r', rest)
    | 't' => some (.char '\t', rest)
    | 'v' => some (.char '\x0b', rest)
    | 'x' => (readHex 2 rest).map fun (c, rest) => (.char c, rest)
    | 'u' => (readHex 4 rest).map fun (c, rest) => (.char c, rest)
    | 'U' => (readHex 8 rest).map fun (c, rest) => (.char c, rest)
    | 'A' => some (.assertion .textStart, rest)
    | 'z' => some (.assertion .textEnd, rest)
    | 'b' =>
      let (a, rest) := readBoundary rest
      some (.assertion a, rest)
    | 'B' => some (.assertion .noBoundary, rest)
    | '<' => some (.assertion .wordStart, rest)
    | '>' => some (.assertion .wordEnd, rest)
    | c => if c.toNat < 0x80 && !c.isAlphanum then some (.char c, rest) else none

end Breakpoints.Regex
