import Breakpoints.Name.Identifier
import Breakpoints.Place
import Breakpoints.SourceKey
import Breakpoints.Text.Numeral

/-!
Breakpoint specifications: what a breakpoint binds to, and the text that describes it.
-/

namespace Breakpoints

/-- Which overloads a method breakpoint accepts.  `exact []` accepts only methods without
parameters. -/
inductive ParameterFilter where
  | any
  | exact (types : List String)
deriving DecidableEq, Repr, Inhabited

/-- The types that a filter names. -/
def ParameterFilter.types : ParameterFilter → List String
  | any => []
  | exact types => types

/-- A line of a source file, in classes of one package if one is given.  The pattern and the file
name are those that the search for the class uses. -/
structure LineSpec where
  key : SourceKey
  package : Option String
  classPattern : String
  sourceName : String
  line : Nat
deriving DecidableEq, Repr, Inhabited

structure MethodSpec where
  className : String
  methodName : String
  parameters : ParameterFilter
deriving DecidableEq, Repr, Inhabited

inductive Spec where
  | line (spec : LineSpec)
  | method (spec : MethodSpec)
  | classPattern (filter : String) (onPrepare onUnload : Bool)
  | threadLifecycle (filter : Option String) (onStart onDeath : Bool)
  | fieldWatch (className fieldName : String) (onAccess onModify : Bool)
  | exceptionCatch (className : String) (caught uncaught : Bool)
  | uncaughtException
  | trace (classFilter threadFilter : Option String) (onEnter onExit : Bool)
  | explicitLocation (location : Location)
deriving DecidableEq, Repr, Inhabited

/-- Names of the flags that are set, in brackets, or nothing. -/
def flagText (flags : List (String × Bool)) : String :=
  match (flags.filter (·.2)).map (·.1) with
  | [] => ""
  | names => " [" ++ String.intercalate "," names ++ "]"

namespace LineSpec

/-- A line of a file; an empty package is no package. -/
def create (key : SourceKey) (package : Option String) (line : Nat) : Except Failure LineSpec :=
  match package with
  | none => .ok ⟨key, none, "*", key.fileName, line⟩
  | some p =>
    if p = "" then .ok ⟨key, none, "*", key.fileName, line⟩
    else match Name.checkClass p with
      | .error e => .error e
      | .ok () => .ok ⟨key, some p, p ++ ".*", key.fileName, line⟩

def text (spec : LineSpec) : String :=
  spec.key.path ++ ":" ++ toString spec.line

end LineSpec

namespace MethodSpec

def create (className methodName : String) (parameters : ParameterFilter) :
    Except Failure MethodSpec :=
  match Name.checkClass className with
  | .error e => .error e
  | .ok () =>
    match Name.checkMember methodName with
    | .error e => .error e
    | .ok () => .ok ⟨className, methodName, parameters⟩

def text (spec : MethodSpec) : String :=
  spec.className ++ "." ++ spec.methodName ++
    match spec.parameters with
    | .any => ""
    | .exact types => "(" ++ String.intercalate ", " types ++ ")"

end MethodSpec

namespace Spec

def kind : Spec → Kind
  | line _ => .line
  | method _ => .method
  | classPattern .. => .classPattern
  | threadLifecycle .. => .threadLifecycle
  | fieldWatch .. => .fieldWatch
  | exceptionCatch .. => .exceptionCatch
  | uncaughtException => .uncaughtException
  | trace .. => .trace
  | explicitLocation _ => .explicitLocation

/-- The class that has to be loaded before the breakpoint can bind, if it names one. -/
def className? : Spec → Option String
  | method spec => some spec.className
  | fieldWatch className .. => some className
  | exceptionCatch className .. => some className
  | _ => none

/-- The text for listings. -/
def text : Spec → String
  | line spec => spec.text
  | method spec => spec.text
  | classPattern filter onPrepare onUnload =>
    "class " ++ filter ++ flagText [("prepare", onPrepare), ("unload", onUnload)]
  | threadLifecycle filter onStart onDeath =>
    "thread " ++ filter.getD "*" ++ flagText [("start", onStart), ("death", onDeath)]
  | fieldWatch className fieldName onAccess onModify =>
    "watch " ++ className ++ "." ++ fieldName ++
      flagText [("access", onAccess), ("modify", onModify)]
  | exceptionCatch className caught uncaught =>
    "catch " ++ className ++ flagText [("caught", caught), ("uncaught", uncaught)]
  | uncaughtException => "uncaught exceptions"
  | trace classFilter threadFilter onEnter onExit =>
    "trace " ++ classFilter.getD "*" ++ " in " ++ threadFilter.getD "*" ++
      flagText [("enter", onEnter), ("exit", onExit)]
  | explicitLocation location =>
    "location class=" ++ Text.hexText location.classId ++ " method=" ++
      Text.hexText location.methodId ++ " index=" ++ toString location.index

end Spec

end Breakpoints
