import Breakpoints.Json.Basic
import Breakpoints.Text.Numeral

/-!
Strict reading of JSON text: one value with nothing but gaps around it, no leading zeros, no raw
control characters in strings.
-/

namespace Breakpoints.Json

/-- White space between tokens. -/
def isGap (c : Char) : Bool :=
  c = ' ' || c = '\t' || c = '\n' || c = '\r'

def skipGaps (s : List Char) : List Char :=
  s.dropWhile isGap

/-- The character that an escape of one letter stands for. -/
def escape? : Char → Option Char
  | '"' => some '"'
  | '\\' => some '\\'
  | '/' => some '/'
  | 'b' => some '\x08'
  | 'f' => some '\x0c'
  | 'n' => some '\n'
  | 'r' => some '\r'
  | 't' => some '\t'
  | _ => none

/-- The code points and surrogates of a string up to its closing quote, and the text after it. -/
def readUnits : List Char → Option (List Nat × List Char)
  | [] => none
  | '"' :: rest => some ([], rest)
  | '\\' :: 'u' :: a :: b :: c :: d :: rest =>
    match Text.hexValue? [a, b, c, d] with
    | none => none
    | some n => (readUnits rest).map fun (units, after) => (n :: units, after)
  | '\\' :: e :: rest =>
    match escape? e with
    | none => none
    | some c => (readUnits rest).map fun (units, after) => (c.toNat :: units, after)
  | c :: rest =>
    if c.toNat < 0x20 then none
    else (readUnits rest).map fun (units, after) => (c.toNat :: units, after)

/-- Joins surrogate pairs; a surrogate without its partner is no text. -/
def decodeUnits : List Nat → Option (List Char)
  | [] => some []
  | [u] => if 0xD800 ≤ u ∧ u < 0xE000 then none else some [Char.ofNat u]
  | u :: v :: rest =>
    if 0xD800 ≤ u ∧ u < 0xDC00 then
      if 0xDC00 ≤ v ∧ v < 0xE000 then
        (decodeUnits rest).map (Char.ofNat (0x10000 + (u - 0xD800) * 0x400 + (v - 0xDC00)) :: ·)
      else none
    else if 0xDC00 ≤ u ∧ u < 0xE000 then none
    else (decodeUnits (v :: rest)).map (Char.ofNat u :: ·)

/-- A string after its opening quote; its text is absent when its escapes spell none. -/
def readString (s : List Char) : Option (Option String × List Char) :=
  (readUnits s).map fun (units, rest) => ((decodeUnits units).map String.ofList, rest)

/-- One or more digits. -/
def readDigits (s : List Char) : Option (List Char × List Char) :=
  match s.span Char.isDigit with
  | ([], _) => none
  | found => some found

/-- An optional fraction with its point. -/
def readFraction : List Char → Option (List Char × List Char)
  | '.' :: rest => (readDigits rest).map fun (digits, after) => ('.' :: digits, after)
  | s => some ([], s)

/-- An optional exponent with its letter and sign. -/
def readExponent : List Char → Option (List Char × List Char)
  | c :: rest =>
    if c = 'e' ∨ c = 'E' then
      let (sign, unsigned) := match rest with
        | '+' :: r => (['+'], r)
        | '-' :: r => (['-'], r)
        | r => ([], r)
      (readDigits unsigned).map fun (digits, after) => (c :: (sign ++ digits), after)
    else some ([], c :: rest)
  | [] => some ([], [])

/-- The value of a numeral given in its parts.  A whole number that fits 64 bits is kept as a
number, any other as its text; so is minus zero. -/
def ofNumeral (negative : Bool) (whole fraction exponent : List Char) : Json :=
  let text := String.ofList ((if negative then ['-'] else []) ++ whole ++ fraction ++ exponent)
  if !fraction.isEmpty || !exponent.isEmpty then .real text
  else if negative then
    match Text.readNumeral? 0x8000000000000000 whole with
    | some (n + 1) => .int (-(n + 1))
    | _ => .real text
  else
    match Text.readNumeral? Text.maxLong whole with
    | some n => .int n
    | none => .real text

/-- A numeral. -/
def readNumber (s : List Char) : Option (Json × List Char) := do
  let (negative, unsigned) := match s with
    | '-' :: r => (true, r)
    | r => (false, r)
  let (whole, r) ← readDigits unsigned
  if whole.length > 1 && whole.head? == some '0' then none
  let (fraction, r) ← readFraction r
  let (exponent, rest) ← readExponent r
  some (ofNumeral negative whole fraction exponent, rest)

/-- An object, unless one of its names spells no text. -/
def ofMembers (members : List (Option String × Json)) : Json :=
  match members.mapM fun m => m.1.map fun name => (name, m.2) with
  | some named => .obj named
  | none => .garbled

mutual

/-- A value at the start of the text; `fuel` bounds the nesting. -/
def readValue : Nat → List Char → Option (Json × List Char)
  | 0, _ => none
  | fuel + 1, s =>
    match skipGaps s with
    | '"' :: r => (readString r).map fun (text, rest) => ((text.map Json.str).getD .garbled, rest)
    | 'n' :: 'u' :: 'l' :: 'l' :: rest => some (.null, rest)
    | 't' :: 'r' :: 'u' :: 'e' :: rest => some (.bool true, rest)
    | 'f' :: 'a' :: 'l' :: 's' :: 'e' :: rest => some (.bool false, rest)
    | '[' :: r =>
      match skipGaps r with
      | ']' :: rest => some (.arr [], rest)
      | r => (readItems fuel r).map fun (items, rest) => (.arr items, rest)
    | '\x7b' :: r =>
      match skipGaps r with
      | '\x7d' :: rest => some (.obj [], rest)
      | r => (readMembers fuel r).map fun (members, rest) => (ofMembers members, rest)
    | r => readNumber r

/-- The items of an array up to its closing bracket. -/
def readItems : Nat → List Char → Option (List Json × List Char)
  | 0, _ => none
  | fuel + 1, s =>
    match readValue fuel s with
    | none => none
    | some (item, r) =>
      match skipGaps r with
      | ']' :: rest => some ([item], rest)
      | ',' :: r => (readItems fuel r).map fun (items, rest) => (item :: items, rest)
      | _ => none

/-- The members of an object up to its closing brace. -/
def readMembers : Nat → List Char → Option (List (Option String × Json) × List Char)
  | 0, _ => none
  | fuel + 1, s =>
    match skipGaps s with
    | '"' :: r =>
      match readString r with
      | none => none
      | some (name, r) =>
        match skipGaps r with
        | ':' :: r =>
          match readValue fuel r with
          | none => none
          | some (value, r) =>
            match skipGaps r with
            | '\x7d' :: rest => some ([(name, value)], rest)
            | ',' :: r =>
              (readMembers fuel r).map fun (members, rest) => ((name, value) :: members, rest)
            | _ => none
        | _ => none
    | _ => none

end

/-- The value that a whole text stands for.  Nesting is at most the length of the text, so the
fuel never runs out on text of the right form. -/
def read? (text : String) : Option Json := do
  let s := text.toList
  let (value, rest) ← readValue (2 * s.length + 2) s
  if (skipGaps rest).isEmpty then some value else none

end Breakpoints.Json
