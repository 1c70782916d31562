import Breakpoints.Regex.Footprint.Limit
import Breakpoints.Regex.Matcher
import Breakpoints.Regex.Reader
import Breakpoints.Regex.SearchTexts

/-!
What a regular expression is searched with: a few texts, if they tell its matches, or else its
program, which is built only for an expression within the limit of size.
-/

namespace Breakpoints.Regex

/-- Whether a text occurs in another. -/
def occursIn (text : List Nat) : List Nat → Bool
  | [] => text.isEmpty
  | b :: rest => text.isPrefixOf (b :: rest) || occursIn text rest

inductive Finder where
  /-- Texts of which one has to occur, as bytes. -/
  | anyOf (texts : List (List Nat))
  | program (p : Program)

/-- Whether what is searched for is found in a text. -/
def Finder.isFoundIn (finder : Finder) (text : String) : Bool :=
  match finder with
  | anyOf texts =>
    let bytes := Text.utf8 text.toList
    texts.any fun text => occursIn text bytes
  | program p => p.isFoundIn text

/-- The means of a search, unless they are too large. -/
def finder? (r : Regex) : Option Finder :=
  match r.searchTexts? with
  | some texts => some (.anyOf texts)
  | none => if r.isWithinLimit then some (.program r.program) else none

/-- The search for the regular expression that a text spells, up to case from the start if
`folding` is set. -/
def read? (folding : Bool) (text : String) : Option Finder :=
  (parse? folding text).bind finder?

end Breakpoints.Regex
