/-!
Thread groups of the target and the walk over them.
-/

namespace Breakpoints

structure ThreadEntry where
  id : Nat
  name : String
deriving DecidableEq, Repr

/-- A thread group with its subgroups and its own threads.  The class is given when the group is
of a class of its own. -/
structure ThreadGroup where
  id : Nat
  name : String
  className : Option String
  groups : List ThreadGroup
  threads : List ThreadEntry

namespace ThreadGroup

mutual

/-- The number of groups in a group, itself included. -/
def size : ThreadGroup → Nat
  | ⟨_, _, _, groups, _⟩ => sizeList groups + 1

/-- The number of groups in a forest. -/
def sizeList : List ThreadGroup → Nat
  | [] => 0
  | group :: rest => size group + sizeList rest

end

/-- Takes groups off a stack and puts their subgroups, one level deeper, in their place; `fuel`
bounds the number of steps. -/
def walkFrom : Nat → List (Nat × ThreadGroup) → List (Nat × ThreadGroup)
  | 0, _ => []
  | _ + 1, [] => []
  | fuel + 1, (depth, group) :: stack =>
    (depth, group) :: walkFrom fuel (group.groups.map (depth + 1, ·) ++ stack)

/-- Every group of a forest with its depth, each before its subgroups.  Each step takes one group
off, so the number of groups bounds the walk. -/
def walk (roots : List ThreadGroup) : List (Nat × ThreadGroup) :=
  walkFrom (sizeList roots) (roots.map (0, ·))

end ThreadGroup

end Breakpoints
