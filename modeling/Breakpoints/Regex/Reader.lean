import Breakpoints.Regex.Bracket

/-!
Reading of regular expressions: literals, `.`, anchors, groups, alternatives, bracketed sets,
repetitions, escapes and the flags `i`, `m`, `s` and `U`.  Along with an expression goes its height,
the number of constructs inside one another as they are written: groups, repetitions, brackets,
and rows of more than one item or alternative.
-/

namespace Breakpoints.Regex

/-- The flags in force: letters up to case, anchors at lines, a dot for every character, and
repetitions that prefer less. -/
structure Flags where
  folding : Bool
  lines : Bool
  everything : Bool
  sparing : Bool
deriving DecidableEq, Repr

/-- A number of copies; white space around it does not count. -/
def readCount (s : List Char) : Option (Nat × List Char) :=
  let (digits, rest) := (s.dropWhile Text.isBlank).span Char.isDigit
  (Text.readNumeral? Text.maxWord digits).map fun n => (n, rest.dropWhile Text.isBlank)

/-- The bounds of a counted repetition after its opening brace. -/
def readBounds (s : List Char) : Option ((Nat × Option Nat) × List Char) := do
  let (least, r) ← readCount s
  match r with
  | '\x7d' :: rest => some ((least, some least), rest)
  | ',' :: '\x7d' :: rest => some ((least, none), rest)
  | ',' :: r =>
    let (most, r) ← readCount r
    match r with
    | '\x7d' :: rest => if least ≤ most then some ((least, some most), rest) else none
    | _ => none
  | _ => none

/-- The bounds of a repetition, whether a question mark follows, and the text after both. -/
def readRepetition (s : List Char) : Option ((Nat × Option Nat) × Bool × List Char) := do
  let (bounds, rest) ← match s with
    | '?' :: rest => some ((0, some 1), rest)
    | '*' :: rest => some ((0, none), rest)
    | '+' :: rest => some ((1, none), rest)
    | '\x7b' :: r => readBounds r
    | _ => none
  match rest with
  | '?' :: rest => some (bounds, true, rest)
  | rest => some (bounds, false, rest)

def isNameChar (isFirst : Bool) (c : Char) : Bool :=
  c = '_' || Text.isLetter c ||
    !isFirst && (Text.isNumber c || c = '.' || c = '[' || c = ']')

/-- The name of a group up to its closing angle bracket. -/
def readName (s : List Char) : Option (List Char × List Char) :=
  match s.span (· ≠ '>') with
  | (c :: name, _ :: rest) =>
    if isNameChar true c && name.all (isNameChar false) then some (c :: name, rest) else none
  | _ => none

/-- One flag letter. -/
def setFlag? (flags : Flags) (on : Bool) : Char → Option Flags
  | 'i' => some { flags with folding := on }
  | 'm' => some { flags with lines := on }
  | 's' => some { flags with everything := on }
  | 'U' => some { flags with sparing := on }
  | 'u' => if on then some flags else none
  | _ => none

/-- Flag letters up to a closing parenthesis or a colon; those after a hyphen are cleared.  No
letter and no hyphen comes twice, and a letter follows the hyphen. -/
def readFlags (flags : Flags) (on : Bool) (seen : List Char) :
    List Char → Option (Flags × List Char × List Char)
  | [] => none
  | c :: rest =>
    if c = ')' || c = ':' then
      if seen.head? = some '-' then none else some (flags, seen, c :: rest)
    else if seen.contains c then none
    else if c = '-' then readFlags flags false ('-' :: seen) rest
    else match setFlag? flags on c with
      | none => none
      | some flags => readFlags flags on (c :: seen) rest

/-- How a group opens. -/
inductive Opening where
  | plain
  | named (name : List Char)
  | scoped (flags : Flags)
  | setting (flags : Flags)
deriving Repr

/-- What follows an opening parenthesis.  There is no looking ahead or behind. -/
def readOpening (flags : Flags) : List Char → Option (Opening × List Char)
  | '?' :: 'P' :: '<' :: r => (readName r).map fun (name, rest) => (.named name, rest)
  | '?' :: '<' :: '=' :: _ => none
  | '?' :: '<' :: '!' :: _ => none
  | '?' :: '<' :: r => (readName r).map fun (name, rest) => (.named name, rest)
  | '?' :: r =>
    match readFlags flags true [] r with
    | some (inner, _, ':' :: rest) => some (.scoped inner, rest)
    | some (outer, seen, ')' :: rest) => if seen.isEmpty then none else some (.setting outer, rest)
    | _ => none
  | r => some (.plain, r)

/-- The largest height of an expression. -/
def maxHeight : Nat := 250

/-- An expression with its height.  Flags that are set alone cannot be repeated. -/
structure Item where
  regex : Regex
  height : Nat
  repeatable : Bool

/-- One character, with `folding` up to case. -/
def ofChar (folding : Bool) (c : Char) : Regex :=
  oneOf (folded folding (.single c))

/-- A single position or character outside of brackets; `fuel` bounds the nesting of brackets. -/
def readAtom (flags : Flags) (fuel : Nat) : List Char → Option (Item × List Char)
  | [] => none
  | '.' :: rest => some (⟨oneOf (dot flags.everything), 0, true⟩, rest)
  | '^' :: rest =>
    some (⟨.assertion (if flags.lines then .lineStart else .textStart), 0, true⟩, rest)
  | '$' :: rest =>
    some (⟨.assertion (if flags.lines then .lineEnd else .textEnd), 0, true⟩, rest)
  | '\\' :: r =>
    (readEscape r).map fun (escape, rest) =>
      let regex := match escape with
        | .char c => ofChar flags.folding c
        | .set members => oneOf members
        | .assertion a => .assertion a
      (⟨regex, 0, true⟩, rest)
  | '[' :: r =>
    (readSet flags.folding fuel r).map fun ((members, height), rest) =>
      (⟨oneOf members, height, true⟩, rest)
  | c :: rest => some (⟨ofChar flags.folding c, 0, true⟩, rest)

/-- The groups so far: how many were numbered, and the names in use. -/
structure Groups where
  count : Nat
  names : List (List Char)

/-- Numbers the group that opens, if it is one that counts; no name is given twice. -/
def Groups.open? (groups : Groups) : Opening → Option (Option Nat × Groups)
  | .plain => some (some (groups.count + 1), { groups with count := groups.count + 1 })
  | .named name =>
    if groups.names.contains name then none
    else some (some (groups.count + 1), ⟨groups.count + 1, name :: groups.names⟩)
  | _ => some (none, groups)

/-- The height of a row of items or alternatives. -/
def rowHeight (items : List Item) : Nat :=
  let highest := items.foldl (fun n item => max n item.height) 0
  if items.length < 2 then highest else highest + 1

/-- What was read of a group: the finished alternatives and the items of the present one, last
first. -/
structure Unfinished where
  branches : List Item
  items : List Item

namespace Unfinished

def empty : Unfinished := ⟨[], []⟩

def push (u : Unfinished) (item : Item) : Unfinished :=
  { u with items := item :: u.items }

/-- Ends the present alternative. -/
def endBranch (u : Unfinished) : Unfinished :=
  let branch := ⟨seqOf (u.items.reverse.map Item.regex), rowHeight u.items, true⟩
  ⟨branch :: u.branches, []⟩

/-- All alternatives. -/
def close (u : Unfinished) : Item :=
  let branches := u.endBranch.branches
  ⟨altOf (branches.reverse.map Item.regex), rowHeight branches, true⟩

end Unfinished

/-- The content of a group up to its closing parenthesis or the end of the text.  Flags that are
set in a group hold to its end, in later alternatives too. -/
def readGroup : Nat → Flags → Groups → Unfinished → List Char →
    Option (Item × Groups × List Char)
  | 0, _, _, _, _ => none
  | fuel + 1, flags, groups, u, s =>
    match s with
    | [] => some (u.close, groups, [])
    | ')' :: _ => some (u.close, groups, s)
    | '|' :: r => readGroup fuel flags groups u.endBranch r
    | '(' :: r =>
      match readOpening flags r with
      | none => none
      | some (.setting flags, r) => readGroup fuel flags groups (u.push ⟨.empty, 0, false⟩) r
      | some (opening, r) =>
        let inner := match opening with
          | .scoped inner => inner
          | _ => flags
        match groups.open? opening with
        | none => none
        | some (number?, groups) =>
          match readGroup fuel inner groups .empty r with
          | some (body, groups, ')' :: r) =>
            let regex := match number? with
              | some number => .group number body.regex
              | none => body.regex
            readGroup fuel flags groups (u.push ⟨regex, body.height + 1, true⟩) r
          | _ => none
    | c :: _ =>
      if c = '?' || c = '*' || c = '+' || c = '\x7b' then
        match u.items, readRepetition s with
        | body :: items, some ((least, most), lazily, r) =>
          if body.repeatable && body.height < maxHeight then
            let regex := copiesOf least most (lazily == flags.sparing) body.regex
            readGroup fuel flags groups ⟨u.branches, ⟨regex, body.height + 1, true⟩ :: items⟩ r
          else none
        | _, _ => none
      else match readAtom flags fuel s with
        | none => none
        | some (atom, r) => readGroup fuel flags groups (u.push atom) r

/-- The regular expression that a text spells, up to case from the start if `folding` is set. -/
def parse? (folding : Bool) (text : String) : Option Regex :=
  let s := text.toList
  match readGroup (2 * s.length + 2) ⟨folding, false, false, false⟩ ⟨0, []⟩ .empty s with
  | some (item, _, []) => if item.height ≤ maxHeight then some item.regex else none
  | _ => none

end Breakpoints.Regex
