/-!
Places and members of the target's code, by the ids that the target gives them.
-/

namespace Breakpoints

/-- A code position: the tag tells class, interface and array apart, the index is a bytecode
offset in the method. -/
structure Location where
  typeTag : Nat
  classId : Nat
  methodId : Nat
  index : Nat
deriving DecidableEq, Repr, Inhabited

/-- A loaded class and its dotted name. -/
structure ClassHandle where
  typeId : Nat
  name : String
deriving DecidableEq, Repr, Inhabited

/-- A method, the qualified names of its parameter types, and its first instruction. -/
structure MethodInfo where
  methodId : Nat
  name : String
  parameterTypes : List String
  location : Location
deriving DecidableEq, Repr, Inhabited

structure FieldHandle where
  fieldId : Nat
  name : String
deriving DecidableEq, Repr, Inhabited

/-- Where the user is, to fill in what a short breakpoint text leaves out. -/
structure CurrentLocation where
  sourcePath : String
  line : Nat
  className : String
deriving DecidableEq, Repr, Inhabited

end Breakpoints
