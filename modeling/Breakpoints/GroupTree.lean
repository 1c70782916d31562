import Breakpoints.Failure
import Breakpoints.Table

/-!
Groups of breakpoints.  Groups form a tree below one root; each lists its subgroups in order and
the ids of its breakpoints.
-/

namespace Breakpoints

structure Group where
  name : String
  enabled : Bool
  parent : Option Nat
  children : List Nat
  members : IdSet

/-- The groups by id.  Ids below `nextId` have been given out and are never given out again. -/
structure GroupTree where
  groups : Table Nat Group
  /-- The id of the next group.  Ids are words of 32 bits, so a run is meant to create fewer than
  2 ^ 32 groups. -/
  nextId : Nat

namespace GroupTree

/-- The id of the root group. -/
def root : Nat := 0

def rootName : String := "Default"

/-- The tree of the root group alone. -/
def initial : GroupTree :=
  ⟨Table.empty.insert root ⟨rootName, true, none, [], ∅⟩, root + 1⟩

instance : Inhabited GroupTree := ⟨initial⟩

def find? (t : GroupTree) (group : Nat) : Option Group :=
  t.groups.find? group

def contains (t : GroupTree) (group : Nat) : Bool :=
  t.groups.contains group

/-- Applies `f` to one group. -/
def modify (t : GroupTree) (group : Nat) (f : Group → Group) : GroupTree :=
  { t with groups := t.groups.modify group f }

def addChild (child : Nat) (g : Group) : Group :=
  { g with children := g.children ++ [child] }

def dropChild (child : Nat) (g : Group) : Group :=
  { g with children := g.children.filter (· ≠ child) }

/-- Adds an enabled, empty group as the last child of `parent`. -/
def create (t : GroupTree) (name : String) (parent : Nat) : Except Failure (Nat × GroupTree) :=
  if t.contains parent then
    let id := t.nextId
    let linked := t.modify parent (addChild id)
    .ok (id, ⟨linked.groups.insert id ⟨name, true, some parent, [], ∅⟩, id + 1⟩)
  else .error (.unknownGroup parent)

/-- A group and those above it; `fuel` bounds the number of steps. -/
def ancestorsFrom (t : GroupTree) : Nat → Nat → List Nat
  | 0, _ => []
  | fuel + 1, group =>
    match t.find? group with
    | none => []
    | some g =>
      group :: match g.parent with
        | none => []
        | some parent => ancestorsFrom t fuel parent

/-- The group itself, its parent, and so on up to the root.  In a tree no group comes twice, so
the number of groups bounds the walk. -/
def ancestors (t : GroupTree) (group : Nat) : List Nat :=
  t.ancestorsFrom t.groups.size group

/-- Makes `parent` the parent of `group`, which becomes its last child. -/
def move (t : GroupTree) (group parent : Nat) : Except Failure GroupTree :=
  if group = root then .error .rootGroup
  else match t.find? group with
    | none => .error (.unknownGroup group)
    | some g =>
      if !t.contains parent then .error (.unknownGroup parent)
      else if (t.ancestors parent).contains group then .error (.groupCycle group)
      else
        let lifted := t.modify group fun g => { g with parent := some parent }
        let unlinked := match g.parent with
          | none => lifted
          | some old => lifted.modify old (dropChild group)
        .ok (unlinked.modify parent (addChild group))

/-- Makes a breakpoint a member of `group`, and no longer one of `source` if that is given. -/
def moveMember (t : GroupTree) (id : Nat) (source : Option Nat) (group : Nat) :
    Except Failure GroupTree :=
  if t.contains group then
    let left := match source with
      | none => t
      | some old => t.modify old fun g => { g with members := g.members.remove id }
    .ok (left.modify group fun g => { g with members := g.members.add id })
  else .error (.unknownGroup group)

/-- Whether a breakpoint is a member of a group. -/
def isMember (t : GroupTree) (group id : Nat) : Bool :=
  match t.find? group with
  | none => false
  | some g => g.members.has id

/-- Ends a membership; the first part tells whether there was one. -/
def removeMember (t : GroupTree) (group id : Nat) : Bool × GroupTree :=
  (t.isMember group id, t.modify group fun g => { g with members := g.members.remove id })

def setEnabled (t : GroupTree) (group : Nat) (enabled : Bool) : Except Failure GroupTree :=
  if t.contains group then .ok (t.modify group fun g => { g with enabled })
  else .error (.unknownGroup group)

/-- Whether a group has a given flag set to true. -/
def isEnabled (t : GroupTree) (group : Nat) : Bool :=
  match t.find? group with
  | none => false
  | some g => g.enabled

/-- Whether a group and all above it are enabled. -/
def chainEnabled (t : GroupTree) (group : Nat) : Bool :=
  t.contains group && (t.ancestors group).all t.isEnabled

/-- The names from the root down to a group, with slashes between them. -/
def path (t : GroupTree) (group : Nat) : Option String :=
  if t.contains group then
    let names := (t.ancestors group).filterMap fun id => (t.find? id).map (·.name)
    some (String.intercalate "/" names.reverse)
  else none

/-- The first child with a given name. -/
def childNamed? (t : GroupTree) (parent : Nat) (name : String) : Option Nat :=
  match t.find? parent with
  | none => none
  | some p => p.children.find? fun child => (t.find? child).any (·.name == name)

/-- Follows names downward from a group, creating the groups that are missing. -/
def descend (t : GroupTree) (group : Nat) : List String → Except Failure (Nat × GroupTree)
  | [] => .ok (group, t)
  | name :: names =>
    match t.childNamed? group name with
    | some child => descend t child names
    | none =>
      match t.create name group with
      | .error e => .error e
      | .ok (child, grown) => descend grown child names

/-- The names in a path below the root, whose own name at the start may be left out.  Empty names
count for nothing. -/
def pathNames (path : String) : List String :=
  match ((path.toList.splitOn '/').filter (!·.isEmpty)).map String.ofList with
  | [] => []
  | name :: names => if name = rootName then names else name :: names

/-- The group at a path, and the tree with the groups that were missing. -/
def ensurePath (t : GroupTree) (path : String) : Except Failure (Nat × GroupTree) :=
  t.descend root (pathNames path)

/-- Takes groups off a stack and puts their children in their place; `fuel` bounds the number of
steps. -/
def subtreeFrom (t : GroupTree) : Nat → List Nat → List Nat
  | 0, _ => []
  | _ + 1, [] => []
  | fuel + 1, group :: stack =>
    match t.find? group with
    | none => subtreeFrom t fuel stack
    | some g => group :: subtreeFrom t fuel (g.children ++ stack)

/-- A group and all below it, parents before children.  In a tree no group comes twice, so the
number of groups bounds the walk. -/
def subtree (t : GroupTree) (group : Nat) : List Nat :=
  t.subtreeFrom t.groups.size [group]

/-- Removes a group and all below it.  The first part lists the breakpoints left without a
group. -/
def remove (t : GroupTree) (group : Nat) : Except Failure (List Nat × GroupTree) :=
  if group = root then .error .rootGroup
  else match t.find? group with
    | none => .error (.unknownGroup group)
    | some g =>
      let doomed := t.subtree group
      let unlinked := match g.parent with
        | none => t
        | some parent => t.modify parent (dropChild group)
      let orphans := doomed.flatMap fun id => ((t.find? id).map fun g => g.members.toList).getD []
      .ok (orphans, { unlinked with groups := doomed.foldl Table.erase unlinked.groups })

end GroupTree

end Breakpoints
