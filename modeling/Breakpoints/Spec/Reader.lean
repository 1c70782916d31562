import Breakpoints.Spec.Basic
import Breakpoints.Text.Blank
import Breakpoints.Text.Pattern

/-!
Breakpoint texts.  A text names a line, `[class or file:]line`, or a method,
`[class.]method[(types)]`, where a colon may stand for the dot.  What the text leaves out comes
from the current location.
-/

namespace Breakpoints.Spec

open Text (Pattern)

/-- The class of the pattern `[:.]`: what can stand between a class and its member. -/
def isSeparator (c : Char) : Bool :=
  c = ':' || c = '.'

/-- The class of the pattern `[^()]`. -/
def isFlat (c : Char) : Bool :=
  c ≠ '(' && c ≠ ')'

/-- The pattern `^[0-9]+$`. -/
def bareLine : Pattern :=
  .seq (.row Char.isDigit) .ending

/-- The pattern `^.+:[0-9]+$`. -/
def qualifiedLine : Pattern :=
  .seq (.row (· ≠ '\n')) (.seq (.one (· = ':')) (.seq (.row Char.isDigit) .ending))

/-- The pattern `([^(]+)[:.]`: a class with what stands behind it. -/
def classPart : Pattern :=
  .seq (.group 1 (.row (· ≠ '('))) (.one isSeparator)

/-- The pattern `\(([^()]*)\)`: a list of types, which may be empty. -/
def listPart : Pattern :=
  .seq (.one (· = '(')) (.seq (.group 3 (.many isFlat)) (.one (· = ')')))

/-- The pattern `^(?:([^(]+)[:.])?([^()]+)(?:\(([^()]*)\))?$`: a class, which may be left out, a
method, and a list of types, which may be left out. -/
def methodBreak : Pattern :=
  .seq (.maybe classPart) (.seq (.group 2 (.row isFlat)) (.seq (.maybe listPart) .ending))

/-- What stands before the last colon of a text, if there is one, and what comes after it. -/
def splitLast (s : List Char) : Option (List Char) × List Char :=
  match s.reverse.span (· ≠ ':') with
  | (_, []) => (none, s)
  | (tail, _ :: head) => (some head.reverse, tail.reverse)

/-- Parameter types between commas; a blank list is empty, a blank type is an error. -/
def readTypes? (content : List Char) : Option (List String) :=
  if Text.trim content = [] then some []
  else (content.splitOn ',').mapM fun piece =>
    match Text.trim piece with
    | [] => none
    | type => some (String.ofList type)

/-- The path of the file that a line text names. -/
def lineFile (owner : Option (List Char)) (current : Option CurrentLocation) :
    Except Failure String :=
  match owner with
  | none =>
    match current with
    | none => .error .noCurrentLocation
    | some here => .ok here.sourcePath
  | some owner =>
    if owner.contains '/' || owner.contains '\\' then .ok (String.ofList owner)
    else Name.sourcePath (String.ofList owner)

def readLine (owner : Option (List Char)) (digits : List Char)
    (current : Option CurrentLocation) : Except Failure Spec :=
  match Text.readNumeral? Text.maxWord digits with
  | none => .error (.lineNumber (String.ofList digits))
  | some number =>
    match lineFile owner current with
    | .error e => .error e
    | .ok path =>
      match SourceKey.ofPath path with
      | .error e => .error e
      | .ok key => (LineSpec.create key none number).map .line

/-- The class of a method text. -/
def methodOwner (owner : Option (List Char)) (current : Option CurrentLocation) :
    Except Failure String :=
  match owner with
  | some owner => .ok (String.ofList owner)
  | none =>
    match current with
    | none => .error .noCurrentLocation
    | some here => .ok here.className

/-- The parameters that a method text asks for. -/
def readParameters (s : List Char) : Option (List Char) → Except Failure ParameterFilter
  | none => .ok .any
  | some content =>
    match readTypes? content with
    | none => .error (.malformedText (String.ofList s))
    | some types => .ok (.exact types)

def readMethod (s : List Char) (current : Option CurrentLocation) : Except Failure Spec :=
  match methodBreak.read? s with
  | none => .error (.malformedText (String.ofList s))
  | some found =>
    match methodOwner (found.group? 1) current with
    | .error e => .error e
    | .ok className =>
      match found.group? 2 with
      | none => .error (.malformedText (String.ofList s))
      | some member =>
        match readParameters s (found.group? 3) with
        | .error e => .error e
        | .ok parameters =>
          (MethodSpec.create className (String.ofList member) parameters).map .method

/-- The breakpoint that a text asks for. -/
def read (raw : String) (current : Option CurrentLocation) : Except Failure Spec :=
  let s := Text.trim raw.toList
  if (bareLine.read? s).isSome || (qualifiedLine.read? s).isSome then
    let (owner, digits) := splitLast s
    readLine owner digits current
  else readMethod s current

end Breakpoints.Spec
