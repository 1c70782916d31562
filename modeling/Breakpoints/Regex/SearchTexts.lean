import Breakpoints.Regex.Beginnings

/-!
Expressions that are found in a text just if one of a few texts is.  They have no conditions and no
groups, and their matches are told by their beginnings: each match begins with a whole match.
-/

namespace Breakpoints.Regex

mutual

/-- There are no conditions and no groups. -/
def isPlain : Regex → Bool
  | assertion _ => false
  | group _ _ => false
  | copies _ _ _ body => isPlain body
  | seq parts => allPlain parts
  | alt branches => allPlain branches
  | _ => true

def allPlain : List Regex → Bool
  | [] => true
  | r :: rest => isPlain r && allPlain rest

end

/-- Leaves out what begins with a beginning that stands before it. -/
def withoutExtensions (found : List Beginning) : List Beginning :=
  (found.foldl (fun kept b =>
    if kept.any fun c => c.bytes.isPrefixOf b.bytes then kept else b :: kept) []).reverse

/-- The common beginning of two texts. -/
def commonBytes : List Nat → List Nat → List Nat
  | b :: s, c :: t => if b = c then b :: commonBytes s t else []
  | _, _ => []

/-- What all beginnings have in common. -/
def sharedBytes : List Beginning → List Nat
  | [] => []
  | b :: others => others.foldl (fun shared c => commonBytes shared c.bytes) b.bytes

/-- A byte that texts seldom have.  The bytes that begin other than ASCII characters are common. -/
def isRare (b : Nat) : Bool :=
  b < 0x80 && !"\n\r (),-./0129:_abcdefghilmnoprstuvxy|".toList.any fun c => c.toNat = b

/-- Cuts beginnings down until they are few: at each step to a number of bytes, unless they are no
more than the step asks for. -/
def cutDown (found : List Beginning) : List (Nat × Nat) → List Beginning
  | [] => found
  | (length, limit) :: steps =>
    if found.length ≤ limit then found
    else cutDown (withoutExtensions (found.map (Beginning.shorten length))) steps

/-- Whole matches are looked for as such, and not by the few bytes that they begin with.  `count`
is the number of beginnings before extensions were left out. -/
def areSoughtWhole (count : Nat) (found : List Beginning) : Bool :=
  let shared := sharedBytes found
  if 1 < count && shared.length ≤ 3 && shared.head?.any isRare then
    found.all fun b => b.bytes.length ≤ 1
  else if 1 < found.length && (4 < shared.length || 1 < shared.length && 16 < found.length) then
    false
  else
    let brief := cutDown found [(5, 10), (4, 10), (3, 64), (2, 64), (1, 10)]
    brief.all (·.whole) || 64 < brief.length || brief.any fun b => b.bytes.length ≤ 2

/-- The whole matches that every match begins with. -/
def wholeBeginnings? (r : Regex) : Option (List (List Nat)) :=
  r.beginnings.bind fun found =>
    let found := Beginning.merge found
    let kept := withoutExtensions found
    if kept.isEmpty || (found.any fun b => b.bytes.isEmpty) || kept.any fun b => !b.whole then none
    else if areSoughtWhole found.length kept then some (kept.map Beginning.bytes)
    else none

/-- The texts of a long list of alternatives that are all literal. -/
def longList? : Regex → Option (List (List Nat))
  | alt branches => if 3000 ≤ branches.length then texts? branches else none
  | _ => none

/-- The texts of which one occurs just where the expression is found, if it needs no automaton. -/
def searchTexts? (r : Regex) : Option (List (List Nat)) :=
  if r.isPlain then r.wholeBeginnings?.or r.longList? else none

end Breakpoints.Regex
