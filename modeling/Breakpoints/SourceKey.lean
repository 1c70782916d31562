import Breakpoints.Failure
import Breakpoints.Text.Blank

/-!
The key by which a source file is matched: its path with forward slashes and without a leading
slash or `./`.  Written out it looks like a file address, but nothing is ever read from it.
-/

namespace Breakpoints

structure SourceKey where
  path : String
deriving DecidableEq, Repr, Inhabited

namespace SourceKey

/-- What a key starts with when it is written out. -/
def scheme : String := "file:///"

/-- The key written out. -/
def url (key : SourceKey) : String :=
  scheme ++ key.path

/-- The part of a path after its last slash. -/
def lastSegment (path : String) : String :=
  String.ofList (path.toList.reverse.takeWhile (· ≠ '/')).reverse

/-- The name of the file. -/
def fileName (key : SourceKey) : String :=
  lastSegment key.path

def forwardSlashes (s : List Char) : List Char :=
  s.map fun c => if c = '\\' then '/' else c

/-- Drops every `./` at the start. -/
def dropHere : List Char → List Char
  | '.' :: '/' :: rest => dropHere rest
  | s => s

/-- The path of a key before it is checked. -/
def normalise (s : List Char) : List Char :=
  (dropHere (forwardSlashes s)).dropWhile (· = '/')

/-- A path without empty segments and without characters that an address gives a meaning. -/
def isKeyPath (s : List Char) : Bool :=
  (s.splitOn '/').all (fun segment => !segment.isEmpty) &&
    s.all fun c => !(Text.isControl c || c = '?' || c = '#')

/-- The key for a path separated by slashes or backslashes. -/
def ofPath (path : String) : Except Failure SourceKey :=
  let s := normalise path.toList
  if isKeyPath s then .ok ⟨String.ofList s⟩ else .error (.malformedClass path)

/-- The key for a path or for a key written out. -/
def ofText (text : String) : Except Failure SourceKey :=
  match scheme.toList.isPrefixOf? text.toList with
  | some path => ofPath (String.ofList path)
  | none => ofPath text

end SourceKey

end Breakpoints
