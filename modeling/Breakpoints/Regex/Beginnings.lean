import Breakpoints.Regex.Basic

/-!
The texts that the matches of an expression begin with, as bytes, as far as they are few and short.
-/

namespace Breakpoints.Regex

open Text (CharTable)

/-- What a match begins with; `whole` says that the match ends there. -/
structure Beginning where
  bytes : List Nat
  whole : Bool
deriving DecidableEq, Repr

/-- What every match begins with, the preferred ones first; absent if that may be anything. -/
abbrev Beginnings := Option (List Beginning)

namespace Beginning

def nothing : Beginning := ⟨[], true⟩

/-- The match goes on. -/
def cutOff (b : Beginning) : Beginning :=
  { b with whole := false }

/-- No more than `count` bytes. -/
def shorten (count : Nat) (b : Beginning) : Beginning :=
  if b.bytes.length ≤ count then b else ⟨b.bytes.take count, false⟩

/-- Makes one of neighbours with the same bytes. -/
def merge (found : List Beginning) : List Beginning :=
  found.foldr (fun b rest => match rest with
    | [] => [b]
    | c :: others =>
      if b.bytes = c.bytes then ⟨b.bytes, b.whole && c.whole⟩ :: others else b :: rest) []

end Beginning

namespace Beginnings

/-- The greatest number of beginnings. -/
def maxCount : Nat := 250

/-- The greatest number of bytes of a beginning. -/
def maxLength : Nat := 100

/-- The greatest number of characters of a set that are told one by one. -/
def maxMembers : Nat := 10

/-- The greatest number of copies that are followed. -/
def maxCopies : Nat := 10

def nothing : Beginnings := some [.nothing]

def cutOff (s : Beginnings) : Beginnings :=
  s.map fun found => found.map Beginning.cutOff

/-- No match ends where its beginning does, so what follows adds nothing. -/
def isCutOff (s : Beginnings) : Bool :=
  s.all fun found => found.all fun b => !b.whole

/-- The number of pairs or the total number is no more than the greatest. -/
def fits (combine : Nat → Nat → Nat) (s t : Beginnings) : Bool :=
  match s, t with
  | some found, some others => combine found.length others.length ≤ maxCount
  | _, _ => true

/-- The beginnings of one part followed by another. -/
def followedBy (s t : Beginnings) : Beginnings :=
  match s, if fits (· * ·) s t then t else none with
  | none, _ => none
  | some found, none =>
    if found.any fun b => b.bytes.isEmpty then none else some (found.map Beginning.cutOff)
  | some found, some others =>
    let both := found.flatMap fun b =>
      if b.whole then others.map fun c => ⟨b.bytes ++ c.bytes, c.whole⟩ else [b]
    some ((Beginning.merge both).map (Beginning.shorten maxLength))

/-- The beginnings of a number of copies after a beginning. -/
def followedByCopies (s : Beginnings) (count : Nat) (t : Beginnings) : Beginnings :=
  match count with
  | 0 => s
  | n + 1 => if s.isCutOff then s else followedByCopies (s.followedBy t) n t

/-- The beginnings of two alternatives.  If they are too many, four bytes of each are enough. -/
def either (s t : Beginnings) : Beginnings :=
  let brief (s : Beginnings) : Beginnings :=
    s.map fun found => Beginning.merge (found.map (Beginning.shorten 4))
  let (s, t) := if fits (· + ·) s t then (s, t) else (brief s, brief t)
  match s, t with
  | some found, some others =>
    if fits (· + ·) s t then some (Beginning.merge (found ++ others)) else none
  | _, _ => none

/-- The beginnings of one character of a set. -/
def ofMembers (members : CharTable) : Beginnings :=
  let count := members.foldl (fun n range => n + (range.2 + 1 - range.1)) 0
  if maxMembers < count then none
  else some (members.flatMap fun range =>
    (List.range (range.2 + 1 - range.1)).map fun k => ⟨Text.utf8Bytes (range.1 + k), true⟩)

end Beginnings

mutual

/-- What the matches of an expression begin with. -/
def beginnings : Regex → Beginnings
  | empty => .nothing
  | literal text => some [Beginning.shorten Beginnings.maxLength ⟨Text.utf8 text, true⟩]
  | one members => .ofMembers members
  | assertion _ => .nothing
  | group _ body => beginnings body
  | copies least most greedy body =>
    let part := beginnings body
    if least = 0 then
      let part := if most = some 1 then part else part.cutOff
      if greedy then part.either .nothing else Beginnings.nothing.either part
    else
      let several := Beginnings.followedByCopies .nothing (min least Beginnings.maxCopies) part
      if most = some least ∧ least ≤ Beginnings.maxCopies then several else several.cutOff
  | seq parts => beginningsInTurn .nothing parts
  | alt branches => beginningsOfEach (some []) branches

/-- The beginnings of a sequence after the ones of what stands before it. -/
def beginningsInTurn (before : Beginnings) : List Regex → Beginnings
  | [] => before
  | r :: rest =>
    if before.isCutOff then before else beginningsInTurn (before.followedBy (beginnings r)) rest

/-- The beginnings of alternatives added to others. -/
def beginningsOfEach (others : Beginnings) : List Regex → Beginnings
  | [] => others
  | r :: rest =>
    if others.isNone then none else beginningsOfEach (others.either (beginnings r)) rest

end

end Breakpoints.Regex
