/-!
Patterns for texts, with parts that are kept.  A pattern can read the beginning of a text in several
ways.  They are tried in an order of preference: a row of characters is rather long than short, and
a part that may be left out is rather there than not.  The first way that goes through is taken.
-/

namespace Breakpoints.Text

/-- What is read from the beginning of a text. -/
inductive Pattern where
  /-- One character of a class, as in `[:.]`. -/
  | one (fits : Char → Bool)
  /-- Characters of a class, many rather than few, as in `[^()]*`. -/
  | many (fits : Char → Bool)
  /-- Nothing, at the end of the text, as in `$`. -/
  | ending
  /-- A part that is kept under a number, as in `(…)`. -/
  | group (number : Nat) (part : Pattern)
  /-- A part that may be left out, as in `(?:…)?`. -/
  | maybe (part : Pattern)
  | seq (first second : Pattern)

/-- One character of a class or more, as in `[0-9]+`. -/
def Pattern.row (fits : Char → Bool) : Pattern :=
  .seq (.one fits) (.many fits)

/-- A part that was kept, with all that follows where it begins and where it ends. -/
structure Kept where
  number : Nat
  start : List Char
  stop : List Char

def Kept.text (kept : Kept) : List Char :=
  kept.start.take (kept.start.length - kept.stop.length)

/-- How far a text has been read: what is left of it, and the parts that were kept, the last one
first. -/
structure Reading where
  rest : List Char
  kept : List Kept

/-- The part that was kept under a number. -/
def Reading.group? (reading : Reading) (number : Nat) : Option (List Char) :=
  (reading.kept.find? fun kept => kept.number = number).map Kept.text

/-- Where a row of characters of a class can end, the nearest place first. -/
def rowEnds (fits : Char → Bool) (kept : List Kept) : List Char → List Reading
  | [] => [⟨[], kept⟩]
  | c :: rest => ⟨c :: rest, kept⟩ :: if fits c then rowEnds fits kept rest else []

namespace Pattern

/-- The ways in which a pattern reads on, in order of preference. -/
def ways : Pattern → Reading → List Reading
  | one fits, reading =>
    match reading.rest with
    | [] => []
    | c :: rest => if fits c then [{ reading with rest }] else []
  | many fits, reading => (rowEnds fits reading.kept reading.rest).reverse
  | ending, reading => if reading.rest.isEmpty then [reading] else []
  | group number part, reading =>
    (part.ways reading).map fun read =>
      { read with kept := ⟨number, reading.rest, read.rest⟩ :: read.kept }
  | maybe part, reading => part.ways reading ++ [reading]
  | seq first second, reading => (first.ways reading).flatMap second.ways

/-- How a pattern that is bound to the beginning of a text reads it. -/
def read? (pattern : Pattern) (text : List Char) : Option Reading :=
  (pattern.ways ⟨text, []⟩).head?

end Pattern

end Breakpoints.Text
