import Breakpoints.Target.Basic

/-!
Finding in the target what a specification means.  A class that is not loaded yet is no failure;
the search is repeated when more is loaded.
-/

namespace Breakpoints

/-- Whether a key names the file at a source path; the key may have further directories in
front. -/
def sourceMatches (key source : String) : Bool :=
  key = source ||
    match source.toList.isSuffixOf? key.toList with
    | none => false
    | some head => head.getLast? = some '/'

/-- Whether a type as a user writes it means a parameter type: a name without dots also means a
type that ends in it after a dot or a dollar sign. -/
def typeMatches (written actual : String) : Bool :=
  written = actual ||
    !written.toList.contains '.' &&
      match written.toList.isSuffixOf? actual.toList with
      | none => false
      | some head => head.getLast? = some '.' || head.getLast? = some '$'

/-- Whether types as written mean the given parameter types, one by one. -/
def typesMatch : List String → List String → Bool
  | [], [] => true
  | written :: ws, actual :: as => typeMatches written actual && typesMatch ws as
  | _, _ => false

def ParameterFilter.accepts : ParameterFilter → List String → Bool
  | any, _ => true
  | exact types, actual => typesMatch types actual

/-- The one method with a name that the filter accepts, if there is any.  More than one is an
error, and the error is their number. -/
def selectOverload (methods : List MethodInfo) (name : String) (filter : ParameterFilter) :
    Except Nat (Option MethodInfo) :=
  match methods.filter fun m => m.name = name && filter.accepts m.parameterTypes with
  | [] => .ok none
  | [m] => .ok (some m)
  | candidates => .error candidates.length

/-- The outcome of an attempt to bind a breakpoint. -/
inductive Resolution where
  | resolved (request : Int)
  | alreadyResolved
  | pending
deriving DecidableEq, Repr

section

variable {τ : Type} [Target τ]

/-- The first class, in the target's order, that comes from the file and has code at the line. -/
def LineSpec.resolve (spec : LineSpec) (target : τ) : Option Anchor :=
  let pattern := match NamePattern.read spec.classPattern with
    | .ok pattern => pattern
    | .error _ => .any
  (Target.classesFrom target spec.sourceName).findSome? fun (owner, source) =>
    if pattern.accepts owner.name && sourceMatches spec.key.path source then
      (Target.codeAt? target owner spec.line).map (.location (some owner))
    else none

def MethodSpec.resolve (spec : MethodSpec) (target : τ) : Except Failure (Option Anchor) :=
  match Target.classNamed? target spec.className with
  | none => .ok none
  | some owner =>
    match selectOverload (Target.methods target owner) spec.methodName spec.parameters with
    | .error candidates =>
      .error (.ambiguousOverload spec.className spec.methodName candidates)
    | .ok member => .ok (member.map (.method owner))

/-- What a specification means in the target as it is now. -/
def Spec.resolve (spec : Spec) (target : τ) : Except Failure (Option Anchor) :=
  match spec with
  | .line spec => .ok (spec.resolve target)
  | .method spec => spec.resolve target
  | .fieldWatch className fieldName _ _ =>
    .ok ((Target.classNamed? target className).bind fun owner =>
      (Target.field? target owner fieldName).map (.field owner))
  | .exceptionCatch className _ _ =>
    .ok ((Target.classNamed? target className).map fun thrown => .exception (some thrown))
  | .uncaughtException => .ok (some (.exception none))
  | .explicitLocation location => .ok (some (.location none location))
  | .classPattern .. | .threadLifecycle .. | .trace .. => .ok (some .filter)

end

end Breakpoints
