import Breakpoints.Failure
import Breakpoints.Text.Blank

/-!
Filters on names: an exact name or a name with one star at its start or end, and comma-separated
lists of such patterns.
-/

namespace Breakpoints

inductive NamePattern where
  | any
  | exact (name : String)
  | startsWith (head : String)
  | endsWith (tail : String)
deriving DecidableEq, Repr, Inhabited

namespace NamePattern

/-- Reads a pattern, without regard to the white space around it. -/
def read (text : String) : Except Failure NamePattern :=
  let s := Text.trim text.toList
  if s = [] then .error (.malformedFilter "")
  else if s = ['*'] then .ok .any
  else match s.count '*' with
    | 0 => .ok (.exact (String.ofList s))
    | 1 =>
      if s.getLast? = some '*' then .ok (.startsWith (String.ofList s.dropLast))
      else if s.head? = some '*' then .ok (.endsWith (String.ofList s.tail))
      else .error (.malformedFilter (String.ofList s))
    | _ => .error (.malformedFilter (String.ofList s))

def accepts : NamePattern → String → Bool
  | any, _ => true
  | exact name, s => s = name
  | startsWith head, s => head.toList.isPrefixOf s.toList
  | endsWith tail, s => tail.toList.isSuffixOf s.toList

def text : NamePattern → String
  | any => "*"
  | exact name => name
  | startsWith head => head ++ "*"
  | endsWith tail => "*" ++ tail

end NamePattern

/-- Patterns of which a name has to match one. -/
structure FilterList where
  patterns : List NamePattern
deriving DecidableEq, Repr, Inhabited

namespace FilterList

/-- The pieces of a text between commas that are not blank. -/
def pieces (text : String) : List String :=
  ((text.toList.splitOn ',').filter fun piece => !(Text.trim piece).isEmpty).map String.ofList

/-- Reads patterns between commas; blank pieces count for nothing, but one pattern is needed. -/
def read (text : String) : Except Failure FilterList :=
  match (pieces text).mapM NamePattern.read with
  | .error e => .error e
  | .ok [] => .error (.malformedFilter text)
  | .ok patterns => .ok ⟨patterns⟩

def accepts (filters : FilterList) (name : String) : Bool :=
  filters.patterns.any (·.accepts name)

def text (filters : FilterList) : String :=
  String.intercalate "," (filters.patterns.map (·.text))

/-- Reads an optional list; a blank text is no list. -/
def readOptional : Option String → Except Failure (Option FilterList)
  | none => .ok none
  | some text =>
    if Text.trim text.toList = [] then .ok none
    else (read (Text.trimmed text)).map some

end FilterList

end Breakpoints
