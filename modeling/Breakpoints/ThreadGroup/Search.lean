import Breakpoints.Regex.Finder
import Breakpoints.ThreadGroup.Lookup

/-!
The library of patterns that the program is run with.
-/

namespace Breakpoints

/-- Regular expressions.  The library takes the common ones only, and it does not tell what is wrong
with a text that it does not take. -/
instance : PatternLibrary where
  Pattern := Regex.Finder
  read text :=
    match Regex.read? true text with
    | none => .error "not a regular expression"
    | some finder => .ok finder
  isFoundIn := Regex.Finder.isFoundIn

end Breakpoints
