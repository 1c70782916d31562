import Breakpoints.Regex.Footprint.Measure

/-!
The limit on the size of an expression.  Both automata may begin their search at every position,
unless the expression is tied to the end of the text where they start.
-/

namespace Breakpoints.Regex

mutual

/-- Every match begins with a condition. -/
def beginsWith (a : Assertion) : Regex → Bool
  | assertion b => a == b
  | group _ body => beginsWith a body
  | copies least _ _ body => 0 < least && beginsWith a body
  | seq parts => anyBeginsWith a parts
  | alt branches => eachBeginsWith a branches
  | _ => false

/-- A part begins with a condition, and those before it take no character. -/
def anyBeginsWith (a : Assertion) : List Regex → Bool
  | [] => false
  | r :: rest => beginsWith a r || r.isZeroWidth && anyBeginsWith a rest

def eachBeginsWith (a : Assertion) : List Regex → Bool
  | [] => true
  | r :: rest => beginsWith a r && eachBeginsWith a rest

end

mutual

/-- Every match ends with a condition. -/
def endsWith (a : Assertion) : Regex → Bool
  | assertion b => a == b
  | group _ body => endsWith a body
  | copies least _ _ body => 0 < least && endsWith a body
  | seq parts => anyEndsWith a parts
  | alt branches => eachEndsWith a branches
  | _ => false

/-- A part ends with a condition, and those after it take no character. -/
def anyEndsWith (a : Assertion) : List Regex → Bool
  | [] => false
  | r :: rest => anyEndsWith a rest || endsWith a r && allZeroWidth rest

def eachEndsWith (a : Assertion) : List Regex → Bool
  | [] => true
  | r :: rest => endsWith a r && eachEndsWith a rest

end

/-- The states in front of an expression. -/
def entrance (anchored : Bool) : Footprint :=
  if anchored then Footprint.zero.plain 1 else ((Footprint.zero.fork 2).plain 1).choice 1

/-- The size of the automaton that reads forwards.  The whole match is a group too. -/
def forwardBytes (r : Regex) : Nat :=
  (r.measure .forwards ((entrance (r.beginsWith .textStart)).plain 1)).bytes + 64

/-- The size of the automaton that reads backwards. -/
def backwardBytes (r : Regex) : Nat :=
  (r.measure .backwards (entrance (r.endsWith .textEnd))).bytes + 32

/-- Neither automaton is too large. -/
def isWithinLimit (r : Regex) : Bool :=
  r.backwardBytes ≤ Footprint.maxBytes && r.forwardBytes ≤ Footprint.maxBytes

end Breakpoints.Regex
