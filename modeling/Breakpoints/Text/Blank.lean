import Breakpoints.Text.CharTable

/-!
White space and control characters, and the removal of white space around a text.
-/

namespace Breakpoints.Text

/-- The code points with the property White_Space. -/
def blanks : CharTable :=
  [(0x9, 0xD), (0x20, 0x20), (0x85, 0x85), (0xA0, 0xA0), (0x1680, 0x1680), (0x2000, 0x200A),
   (0x2028, 0x2029), (0x202F, 0x202F), (0x205F, 0x205F), (0x3000, 0x3000)]

/-- A white-space character of any script. -/
def isBlank (c : Char) : Bool :=
  blanks.has c

/-- The two ranges of control characters. -/
def controls : CharTable :=
  [(0x0, 0x1F), (0x7F, 0x9F)]

/-- A control character. -/
def isControl (c : Char) : Bool :=
  controls.has c

/-- The text without the white space at its two ends. -/
def trim (s : List Char) : List Char :=
  ((s.dropWhile isBlank).reverse.dropWhile isBlank).reverse

/-- `trim` on strings. -/
def trimmed (s : String) : String :=
  String.ofList (trim s.toList)

end Breakpoints.Text
