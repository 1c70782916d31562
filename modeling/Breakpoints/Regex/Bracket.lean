import Breakpoints.Regex.Escape
import Breakpoints.Text.CaseFold

/-!
Bracketed sets: characters, ranges, named sets, nested sets and the operators between them.  With
`folding`, what stands between brackets or beside an operator is taken up to case before it is
negated or combined.  A set is read together with its height, the number of constructs inside one
another: brackets, operators, and rows of more than one item.
-/

namespace Breakpoints.Regex

open Text (CharTable)

/-- The set itself, or with `folding` the set up to case. -/
def folded (folding : Bool) (members : CharTable) : CharTable :=
  if folding then Text.upToCase members else members

/-- A set between brackets. -/
def bracketed (folding negated : Bool) (members : CharTable) : CharTable :=
  if negated then (folded folding members).complement else folded folding members

/-- A named set such as `[:alpha:]` after its opening bracket. -/
def readNamedSet (folding : Bool) : List Char → Option (CharTable × List Char)
  | ':' :: r =>
    let (negated, r) := match r with
      | '^' :: r => (true, r)
      | r => (false, r)
    match r.span (· ≠ ':') with
    | (name, ':' :: ']' :: rest) =>
      (asciiSet? (String.ofList name)).map fun members =>
        (bracketed folding negated members, rest)
    | _ => none
  | _ => none

/-- An operator between the parts of a bracketed set. -/
def setOperator? : List Char → Option ((CharTable → CharTable → CharTable) × List Char)
  | '&' :: '&' :: rest => some (.intersection, rest)
  | '-' :: '-' :: rest => some (.difference, rest)
  | '~' :: '~' :: rest => some (.symmetricDifference, rest)
  | _ => none

/-- One character or escape of a bracketed set. -/
def readSetItem : List Char → Option (Escape × List Char)
  | '\\' :: r => readEscape r
  | c :: rest => some (.char c, rest)
  | [] => none

/-- A character, a range or a class of a bracketed set. -/
def readSetRange (s : List Char) : Option (CharTable × List Char) := do
  let (first, r) ← readSetItem s
  let members? : Option CharTable := match first with
    | .char c => some (CharTable.single c)
    | .set members => some members
    | .assertion _ => none
  match r with
  | [] => none
  | '-' :: ']' :: _ => members?.map fun members => (members, r)
  | '-' :: '-' :: _ => members?.map fun members => (members, r)
  | '-' :: r =>
    let (last, rest) ← readSetItem r
    match first, last with
    | .char first, .char last =>
      if first ≤ last then some ([(first.toNat, last.toNat)], rest) else none
    | _, _ => none
  | _ => members?.map fun members => (members, r)

/-- A row of items: its ranges in any order, the number of items and the largest height of one. -/
structure SetRow where
  ranges : List (Nat × Nat)
  items : Nat
  height : Nat

namespace SetRow

def empty : SetRow := ⟨[], 0, 0⟩

def add (row : SetRow) (members : CharTable) (height : Nat) : SetRow :=
  ⟨members ++ row.ranges, row.items + 1, max row.height height⟩

/-- The members and the height of a whole row. -/
def close (row : SetRow) : CharTable × Nat :=
  (.ofRanges row.ranges, if row.items < 2 then row.height else row.height + 1)

end SetRow

/-- What stands on the left of a row: an operator with its left operand, if there is one. -/
abbrev LeftOperand := Option ((CharTable → CharTable → CharTable) × CharTable × Nat)

/-- The members and the height of a row with what stands on its left. -/
def combine (folding : Bool) (left : LeftOperand) (row : SetRow) : CharTable × Nat :=
  match left with
  | none => row.close
  | some (operator, members, height) =>
    let (others, height') := row.close
    (operator (folded folding members) (folded folding others), max height height' + 1)

mutual

/-- A bracketed set after its opening bracket, with its height.  Hyphens at the start, and then a
closing bracket if nothing stands before it, are members. -/
def readSet (folding : Bool) : Nat → List Char → Option ((CharTable × Nat) × List Char)
  | 0, _ => none
  | fuel + 1, s =>
    let (negated, r) := match s with
      | '^' :: r => (true, r)
      | r => (false, r)
    let (hyphens, r) := r.span (· = '-')
    let row := hyphens.foldl (fun row c => row.add (.single c) 0) SetRow.empty
    let (row, r) := match hyphens, r with
      | [], ']' :: r => (row.add (.single ']') 0, r)
      | _, r => (row, r)
    (readSetRows folding fuel none row r).map fun ((members, height), rest) =>
      ((bracketed folding negated members, height + 1), rest)

/-- The rows of a bracketed set up to its closing bracket. -/
def readSetRows (folding : Bool) :
    Nat → LeftOperand → SetRow → List Char → Option ((CharTable × Nat) × List Char)
  | 0, _, _, _ => none
  | fuel + 1, left, row, s =>
    match setOperator? s with
    | some (operator, r) =>
      readSetRows folding fuel (some (operator, combine folding left row)) .empty r
    | none =>
      match s with
      | [] => none
      | ']' :: rest => some (combine folding left row, rest)
      | '[' :: r =>
        match readNamedSet folding r with
        | some (members, r) => readSetRows folding fuel left (row.add members 0) r
        | none =>
          match readSet folding fuel r with
          | none => none
          | some ((members, height), r) =>
            readSetRows folding fuel left (row.add members height) r
      | s =>
        match readSetRange s with
        | none => none
        | some (members, r) => readSetRows folding fuel left (row.add members 0) r

end

end Breakpoints.Regex
