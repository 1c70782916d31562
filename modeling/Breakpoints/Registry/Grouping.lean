import Breakpoints.Registry.Binding

/-!
Groups of the registry's breakpoints.
-/

namespace Breakpoints.Registry

variable {τ : Type}

/-- Applies an operation on the groups alone. -/
def changeGroups (m : Registry τ) (f : GroupTree → Except Failure GroupTree) :
    Except Failure Unit × Registry τ :=
  match f m.groups with
  | .error e => (.error e, m)
  | .ok groups => (.ok (), { m with groups })

def createGroup (m : Registry τ) (name : String) (parent : Nat) :
    Except Failure Nat × Registry τ :=
  match m.groups.create name parent with
  | .error e => (.error e, m)
  | .ok (group, groups) => (.ok group, { m with groups })

def moveGroup (m : Registry τ) (group parent : Nat) : Except Failure Unit × Registry τ :=
  m.changeGroups fun groups => groups.move group parent

def setGroupEnabled (m : Registry τ) (group : Nat) (enabled : Bool) :
    Except Failure Unit × Registry τ :=
  m.changeGroups fun groups => groups.setEnabled group enabled

/-- Moves a breakpoint to another group. -/
def moveBreakpoint (m : Registry τ) (id group : Nat) : Except Failure Unit × Registry τ :=
  match m.find? id with
  | none => (.error (.unknownBreakpoint id), m)
  | some bp =>
    if bp.destroyed then (.error (.unknownBreakpoint id), m)
    else match m.groups.moveMember id (some bp.group) group with
      | .error e => (.error e, m)
      | .ok groups => (.ok (), { m.store { bp with group } id with groups })

/-- Removes a group with all below it and destroys the breakpoints in them, which the first part
lists. -/
def removeGroup [Target τ] (m : Registry τ) (group : Nat) :
    Except Failure (List Nat) × Registry τ :=
  match m.groups.remove group with
  | .error e => (.error e, m)
  | .ok (orphans, groups) =>
    (.ok orphans, orphans.foldl (fun m id => (m.destroy id).2) { m with groups })

end Breakpoints.Registry
