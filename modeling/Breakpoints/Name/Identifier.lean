import Breakpoints.Failure
import Breakpoints.Text.Letters
import Breakpoints.Text.Numbers

/-!
Class and member names, and the source file that a class name points to.
-/

namespace Breakpoints.Name

def startsIdentifier (c : Char) : Bool :=
  Text.isLetter c || c = '_' || c = '$'

def continuesIdentifier (c : Char) : Bool :=
  Text.isLetter c || Text.isNumber c || c = '_' || c = '$'

def isIdentifier : List Char → Bool
  | [] => false
  | c :: rest => startsIdentifier c && rest.all continuesIdentifier

/-- A class name is one or more identifiers joined by dots. -/
def isClassName (s : List Char) : Bool :=
  (s.splitOn '.').all isIdentifier

/-- A member name is an identifier or one of the two names of initialisers. -/
def isMemberName (s : String) : Bool :=
  s = "<init>" || s = "<clinit>" || isIdentifier s.toList

def checkClass (name : String) : Except Failure Unit :=
  if isClassName name.toList then .ok () else .error (.malformedClass name)

def checkMember (name : String) : Except Failure Unit :=
  if isMemberName name then .ok () else .error (.malformedMember name)

/-- A class name up to its first dollar sign, unless that stands at the very start. -/
def outermost (name : List Char) : List Char :=
  match name.takeWhile (· ≠ '$') with
  | [] => name
  | outer => outer

/-- The path of the source file that declares a class: packages are directories, and a nested
class is in the file of its outermost class. -/
def sourcePath (className : String) : Except Failure String :=
  match checkClass className with
  | .error e => .error e
  | .ok () =>
    let path := (outermost className.toList).map fun c => if c = '.' then '/' else c
    .ok (String.ofList path ++ ".java")

end Breakpoints.Name
