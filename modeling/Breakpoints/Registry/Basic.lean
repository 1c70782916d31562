import Breakpoints.GroupTree
import Breakpoints.Kit
import Breakpoints.Spec.Reader
import Breakpoints.Target.Resolution

/-!
The registry of live breakpoints: the breakpoints and their groups, and which request in the
target belongs to which breakpoint.  An operation that fails gives the state it leaves behind.
-/

namespace Breakpoints

/-- The breakpoints of one target. -/
structure Registry (τ : Type) where
  target : τ
  kit : Kit
  settings : Settings
  groups : GroupTree
  breakpoints : Table Nat Breakpoint
  /-- The breakpoint that each request was armed for. -/
  requests : Table Int Nat
  /-- The id of the next breakpoint.  Ids are words of 32 bits, so a run is meant to create fewer
  than 2 ^ 32 breakpoints. -/
  nextId : Nat

namespace Registry

variable {τ : Type}

/-- A registry without breakpoints. -/
def create (target : τ) (kit : Kit) (settings : Settings) : Registry τ where
  target
  kit
  settings
  groups := .initial
  breakpoints := ∅
  requests := ∅
  nextId := 1

/-- The ids of the live breakpoints, in the order of their creation. -/
def ids (m : Registry τ) : List Nat :=
  m.breakpoints.keys

def find? (m : Registry τ) (id : Nat) : Option Breakpoint :=
  m.breakpoints.find? id

/-- Puts a breakpoint back after a change. -/
def store (m : Registry τ) (bp : Breakpoint) (id : Nat) : Registry τ :=
  { m with breakpoints := m.breakpoints.insert id bp }

/-- Changes one breakpoint and nothing else. -/
def update (m : Registry τ) (id : Nat) (f : Breakpoint → Except Failure Breakpoint) :
    Except Failure Unit × Registry τ :=
  match m.find? id with
  | none => (.error (.unknownBreakpoint id), m)
  | some bp =>
    if bp.destroyed then (.error (.unknownBreakpoint id), m)
    else match f bp with
      | .error e => (.error e, m)
      | .ok changed => (.ok (), m.store changed id)

/-- Takes something out of one breakpoint. -/
def extract {α : Type} (m : Registry τ) (id : Nat) (f : Breakpoint → α × Breakpoint) :
    Except Failure α × Registry τ :=
  match m.find? id with
  | none => (.error (.unknownBreakpoint id), m)
  | some bp =>
    if bp.destroyed then (.error (.unknownBreakpoint id), m)
    else (.ok (f bp).1, m.store (f bp).2 id)

/-- Whether a breakpoint and all groups above it are enabled. -/
def effectivelyEnabled (m : Registry τ) (id : Nat) : Except Failure Bool :=
  match m.find? id with
  | none => .error (.unknownBreakpoint id)
  | some bp => .ok (bp.enabled && m.groups.chainEnabled bp.group)

/-- Makes a breakpoint, applies `configure` to it and puts it into a group.  The id is used up
also when this fails. -/
def insert (m : Registry τ) (spec : Spec) (group : Nat)
    (configure : Breakpoint → Except Failure Breakpoint) : Except Failure Nat × Registry τ :=
  let id := m.nextId
  let advanced := { m with nextId := id + 1 }
  match m.kit.make id spec group m.settings with
  | .error e => (.error e, advanced)
  | .ok made =>
    match configure made with
    | .error e => (.error e, advanced)
    | .ok bp =>
      match m.groups.moveMember id none group with
      | .error e => (.error e, advanced)
      | .ok groups => (.ok id, { advanced.store bp id with groups })

end Registry

end Breakpoints
