import Breakpoints.Text.Blank
import Breakpoints.Text.Letters
import Breakpoints.Text.Newcomers
import Breakpoints.Text.Numbers
import Breakpoints.Text.WordMarks

/-!
The sets of characters that have a name in regular expressions.
-/

namespace Breakpoints.Regex

open Text (CharTable)

/-- Decimal digits of every script. -/
def digits : CharTable :=
  CharTable.difference Text.decimals Text.newcomers

/-- The characters of the words of every script. -/
def wordChars : CharTable :=
  CharTable.difference (CharTable.ofRanges (Text.letters ++ Text.decimals ++ Text.wordMarks))
    Text.newcomers

/-- A character of a word of some script. -/
def isWordChar (c : Char) : Bool :=
  wordChars.has c

/-- The characters that a dot stands for. -/
def dot (everything : Bool) : CharTable :=
  CharTable.complement (if everything then [] else CharTable.single '\n')

/-- Ranges of characters as a set. -/
def charRanges (ranges : List (Char × Char)) : CharTable :=
  CharTable.ofRanges (ranges.map fun r => (r.1.toNat, r.2.toNat))

/-- The named sets of ASCII characters. -/
def asciiSet? : String → Option CharTable
  | "alnum" => some (charRanges [('0', '9'), ('A', 'Z'), ('a', 'z')])
  | "alpha" => some (charRanges [('A', 'Z'), ('a', 'z')])
  | "ascii" => some (charRanges [('\x00', '\x7f')])
  | "blank" => some (charRanges [('\t', '\t'), (' ', ' ')])
  | "cntrl" => some (charRanges [('\x00', '\x1f'), ('\x7f', '\x7f')])
  | "digit" => some (charRanges [('0', '9')])
  | "graph" => some (charRanges [('!', '~')])
  | "lower" => some (charRanges [('a', 'z')])
  | "print" => some (charRanges [(' ', '~')])
  | "punct" => some (charRanges [('!', '/'), (':', '@'), ('[', '\x60'), ('\x7b', '~')])
  | "space" => some (charRanges [('\t', '\r'), (' ', ' ')])
  | "upper" => some (charRanges [('A', 'Z')])
  | "word" => some (charRanges [('0', '9'), ('A', 'Z'), ('_', '_'), ('a', 'z')])
  | "xdigit" => some (charRanges [('0', '9'), ('A', 'F'), ('a', 'f')])
  | _ => none

end Breakpoints.Regex
