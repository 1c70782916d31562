import Breakpoints.Name.Pattern
import Breakpoints.Spec.Basic

/-!
Specifications built from their parts, with the parts checked.
-/

namespace Breakpoints.Spec

def ofLine (path : String) (package : Option String) (line : Nat) : Except Failure Spec :=
  match SourceKey.ofPath path with
  | .error e => .error e
  | .ok key => (LineSpec.create key package line).map .line

/-- A method, of any overload when no parameter types are given. -/
def ofMethod (className methodName : String) (parameters : Option (List String)) :
    Except Failure Spec :=
  (MethodSpec.create className methodName ((parameters.map .exact).getD .any)).map .method

/-- Classes whose names pass a list of patterns; the text is kept as it was written. -/
def ofClassFilter (filter : String) (onPrepare onUnload : Bool) : Except Failure Spec :=
  (FilterList.read filter).map fun _ => .classPattern (Text.trimmed filter) onPrepare onUnload

/-- The text of an optional single pattern; a blank one is absent. -/
def singleFilter : Option String → Except Failure (Option String)
  | none => .ok none
  | some text =>
    if Text.trim text.toList = [] then .ok none
    else (NamePattern.read text).map fun _ => some (Text.trimmed text)

def ofThreadFilter (filter : Option String) (onStart onDeath : Bool) : Except Failure Spec :=
  (singleFilter filter).map fun filter => .threadLifecycle filter onStart onDeath

def ofField (className fieldName : String) (onAccess onModify : Bool) : Except Failure Spec :=
  match Name.checkClass className with
  | .error e => .error e
  | .ok () => (Name.checkMember fieldName).map fun _ =>
      .fieldWatch className fieldName onAccess onModify

def ofException (className : String) (caught uncaught : Bool) : Except Failure Spec :=
  (Name.checkClass className).map fun _ => .exceptionCatch className caught uncaught

def ofTrace (classFilter threadFilter : Option String) (onEnter onExit : Bool) :
    Except Failure Spec :=
  match singleFilter classFilter with
  | .error e => .error e
  | .ok classFilter => (singleFilter threadFilter).map fun threadFilter =>
      .trace classFilter threadFilter onEnter onExit

end Breakpoints.Spec
