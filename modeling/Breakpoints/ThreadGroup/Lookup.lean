import Breakpoints.Failure
import Breakpoints.Text.Numeral
import Breakpoints.ThreadGroup.Basic

/-!
Finding threads by their groups.  What a pattern is and where it is found is left to a library of
patterns.
-/

namespace Breakpoints

/-- A library of search patterns.  It takes no regard to case. -/
class PatternLibrary where
  Pattern : Type
  /-- The pattern that a text spells, or what is wrong with the text. -/
  read : String → Except String Pattern
  isFoundIn : Pattern → String → Bool

namespace ThreadGroup

/-- The id that a query names: digits after an optional plus sign. -/
def queryId? (query : String) : Option Nat :=
  match query.toList with
  | '+' :: digits => Text.readNumeral? Text.maxLong digits
  | digits => Text.readNumeral? Text.maxLong digits

/-- The threads of the first group with an id. -/
def threadsOf (roots : List ThreadGroup) (id : Nat) : List ThreadEntry :=
  match (walk roots).find? fun e => e.2.id = id with
  | none => []
  | some (_, group) => group.threads

variable [PatternLibrary]

/-- Whether a pattern is found in the name or the id of a group. -/
def isSelectedBy (pattern : PatternLibrary.Pattern) (group : ThreadGroup) : Bool :=
  PatternLibrary.isFoundIn pattern group.name ||
    PatternLibrary.isFoundIn pattern (toString group.id)

/-- The threads of every group that a pattern selects. -/
def threadsMatching (roots : List ThreadGroup) (pattern : PatternLibrary.Pattern) :
    List ThreadEntry :=
  ((walk roots).filter fun e => e.2.isSelectedBy pattern).flatMap fun e => e.2.threads

/-- The threads that a query asks for, by the id of a group or else by a pattern. -/
def findThreads (roots : List ThreadGroup) (query : String) : Except Failure (List ThreadEntry) :=
  match queryId? query with
  | some id => .ok (threadsOf roots id)
  | none =>
    match PatternLibrary.read query with
    | .error fault => .error (.malformedFilter (query ++ ": " ++ fault))
    | .ok pattern => .ok (threadsMatching roots pattern)

end ThreadGroup

end Breakpoints
