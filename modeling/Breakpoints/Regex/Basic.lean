import Breakpoints.Text.Utf8

/-!
Regular expressions over Unicode text, in a normal form: the constructing functions drop what
matches nothing but the empty text, join neighbours and share what alternatives begin with.
-/

namespace Breakpoints

/-- Conditions on a position in the text. -/
inductive Assertion where
  | textStart
  | textEnd
  | lineStart
  | lineEnd
  | boundary
  | noBoundary
  | wordStart
  | wordEnd
  | noWordBefore
  | noWordAfter
deriving DecidableEq, Repr

inductive Regex where
  | empty
  | literal (text : List Char)
  /-- One character of a set. -/
  | one (members : Text.CharTable)
  | assertion (a : Assertion)
  /-- A group with its number in the order of opening parentheses. -/
  | group (number : Nat) (body : Regex)
  /-- At least `least` copies, and at most `most` if that is given.  `greedy` prefers more. -/
  | copies (least : Nat) (most : Option Nat) (greedy : Bool) (body : Regex)
  | seq (parts : List Regex)
  | alt (branches : List Regex)
deriving Inhabited

namespace Regex

open Text (CharTable)

mutual

/-- Equality. -/
def same : Regex → Regex → Bool
  | empty, empty => true
  | literal s, literal t => s == t
  | one s, one t => s == t
  | assertion a, assertion b => a == b
  | group i r, group j s => i == j && same r s
  | copies l m g r, copies l' m' g' s => l == l' && m == m' && g == g' && same r s
  | seq rs, seq ss => sameAll rs ss
  | alt rs, alt ss => sameAll rs ss
  | _, _ => false

/-- Equality of lists. -/
def sameAll : List Regex → List Regex → Bool
  | [], [] => true
  | r :: rs, s :: ss => same r s && sameAll rs ss
  | _, _ => false

end

mutual

/-- Every match is empty, whether or not there is one. -/
def isZeroWidth : Regex → Bool
  | empty => true
  | literal _ => false
  | one _ => false
  | assertion _ => true
  | group _ body => isZeroWidth body
  | copies _ _ _ body => isZeroWidth body
  | seq parts => allZeroWidth parts
  | alt branches => allZeroWidth branches

def allZeroWidth : List Regex → Bool
  | [] => true
  | r :: rest => isZeroWidth r && allZeroWidth rest

end

mutual

/-- The least number of characters of a match; absent if some part matches no text at all. -/
def leastLength? : Regex → Option Nat
  | empty => some 0
  | literal text => some text.length
  | one members => if members.isEmpty then none else some 1
  | assertion _ => some 0
  | group _ body => leastLength? body
  | copies least _ _ body => (leastLength? body).map (least * ·)
  | seq parts => leastLengthOfAll? parts
  | alt branches => leastLengthOfEach? branches

/-- The least length of a sequence. -/
def leastLengthOfAll? : List Regex → Option Nat
  | [] => some 0
  | r :: rest => (leastLength? r).bind fun n => (leastLengthOfAll? rest).map (n + ·)

/-- The least length of alternatives. -/
def leastLengthOfEach? : List Regex → Option Nat
  | [] => none
  | [r] => leastLength? r
  | r :: rest => (leastLength? r).bind fun n => (leastLengthOfEach? rest).map (min n)

end

/-- One character of a set; a set of one character is that character. -/
def oneOf : CharTable → Regex
  | [(first, last)] =>
    if first = last then literal [Char.ofNat first] else one [(first, last)]
  | members => one members

/-- A number of copies.  More than one copy of the empty text is as good as one. -/
def copiesOf (least : Nat) (most : Option Nat) (greedy : Bool) (body : Regex) : Regex :=
  let (least, most) :=
    if body.isZeroWidth then (min least 1, some (min (most.getD 1) 1)) else (least, most)
  match least, most with
  | 0, some 0 => empty
  | 1, some 1 => body
  | least, most => copies least most greedy body

/-- The parts of a sequence. -/
def toParts : Regex → List Regex
  | empty => []
  | seq parts => parts
  | r => [r]

/-- Adds a part in front, joining two literals. -/
def consPart : Regex → List Regex → List Regex
  | literal s, literal t :: rest => literal (s ++ t) :: rest
  | r, rest => r :: rest

/-- One expression after another. -/
def seqOf (items : List Regex) : Regex :=
  match (items.flatMap toParts).foldr consPart [] with
  | [] => empty
  | [r] => r
  | parts => seq parts

/-- The alternatives of an expression. -/
def toBranches : Regex → List Regex
  | alt branches => branches
  | r => [r]

/-- The character that an expression spells. -/
def char? : Regex → Option Char
  | literal [c] => some c
  | _ => none

/-- The set that an expression draws one character from. -/
def members? : Regex → Option CharTable
  | one members => some members
  | _ => none

/-- The bytes of the text that an expression spells. -/
def text? : Regex → Option (List Nat)
  | literal text => some (Text.utf8 text)
  | _ => none

/-- The bytes of alternatives that are all literal. -/
def texts? (branches : List Regex) : Option (List (List Nat)) :=
  branches.mapM text?

/-- Alternatives, one character at most being left to a set. -/
def altOfDistinct (branches : List Regex) : Regex :=
  match branches with
  | [] => one []
  | [r] => r
  | branches =>
    match branches.mapM char? with
    | some chars => oneOf (CharTable.ofRanges (chars.map fun c => (c.toNat, c.toNat)))
    | none =>
      match branches.mapM members? with
      | some sets => oneOf (CharTable.ofRanges sets.flatten)
      | none => alt branches

/-- The length of the longest common beginning of two lists. -/
def commonLength : List Regex → List Regex → Nat
  | r :: rs, s :: ss => if same r s then commonLength rs ss + 1 else 0
  | _, _ => 0

/-- The parts of a sequence of two or more. -/
def properParts? : Regex → Option (List Regex)
  | seq parts => some parts
  | _ => none

/-- Alternatives.  What all of them begin with is written once in front. -/
def altOf (items : List Regex) : Regex :=
  match altOfDistinct (items.flatMap toBranches) with
  | alt branches =>
    match branches.mapM properParts? with
    | some (first :: others) =>
      match others.foldl (fun n parts => min n (commonLength first parts)) first.length with
      | 0 => alt branches
      | n =>
        let rests := (first :: others).map fun parts => seqOf (parts.drop n)
        seqOf (first.take n ++ [altOfDistinct (rests.flatMap toBranches)])
    | _ => alt branches
  | r => r

end Regex

end Breakpoints
