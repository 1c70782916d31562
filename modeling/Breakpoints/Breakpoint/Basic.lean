import Breakpoints.Anchor
import Breakpoints.Guard
import Breakpoints.Json.Basic
import Breakpoints.Name.Pattern
import Breakpoints.Spec.Basic
import Breakpoints.SuspendPolicy
import Breakpoints.Table

/-!
A breakpoint: what it binds to, how it is configured, and what became of it so far.
-/

namespace Breakpoints

/-- A breakpoint.  The first `skipCount` hits pass; `expireCount` further hits stop and then it
expires, where zero means never. -/
structure Breakpoint where
  id : Nat
  spec : Spec
  group : Nat
  enabled : Bool
  binding : Option Binding
  skipCount : Nat
  stopCount : Nat
  expireCount : Nat
  expired : Bool
  deleteOnExpire : Bool
  destroyed : Bool
  policy : SuspendPolicy
  classFilters : Option FilterList
  threadFilters : Option FilterList
  conditions : List Condition
  monitors : List Monitor
  properties : Table String Json

/-- The stage of a breakpoint's life. -/
inductive Lifecycle where
  | unresolved
  | resolvedEnabled
  | resolvedDisabled
  | expired
  | destroyed
deriving DecidableEq, Repr

def Lifecycle.text : Lifecycle → String
  | unresolved => "unresolved"
  | resolvedEnabled => "enabled"
  | resolvedDisabled => "disabled"
  | expired => "expired"
  | destroyed => "destroyed"

namespace Breakpoint

/-- A breakpoint without binding, counts, filters, guards and properties. -/
def create (id : Nat) (spec : Spec) (group : Nat) (enabled : Bool) (policy : SuspendPolicy) :
    Breakpoint where
  id
  spec
  group
  enabled
  binding := none
  skipCount := 0
  stopCount := 0
  expireCount := 0
  expired := false
  deleteOnExpire := false
  destroyed := false
  policy
  classFilters := none
  threadFilters := none
  conditions := []
  monitors := []
  properties := ∅

def kind (bp : Breakpoint) : Kind := bp.spec.kind

def resolved (bp : Breakpoint) : Bool := bp.binding.isSome

def lifecycle (bp : Breakpoint) : Lifecycle :=
  if bp.destroyed then .destroyed
  else if bp.expired then .expired
  else if bp.binding.isNone then .unresolved
  else if bp.enabled then .resolvedEnabled
  else .resolvedDisabled

/-- Whether the next hit passes because of the skip count. -/
def skipping (bp : Breakpoint) : Bool :=
  0 < bp.skipCount && bp.stopCount < bp.skipCount

/-- Marks the binding, if there is one, as armed with old settings. -/
def markStale (bp : Breakpoint) : Breakpoint :=
  { bp with binding := bp.binding.map fun binding => { binding with stale := true } }

/-- Policy and filters change only while the breakpoint is disabled. -/
def setPolicy (bp : Breakpoint) (policy : SuspendPolicy) : Except Failure Breakpoint :=
  if bp.enabled then .error (.mustBeDisabled bp.id) else .ok { bp with policy }.markStale

/-- Replaces the class filters; a blank text removes them. -/
def setClassFilters (bp : Breakpoint) (text : Option String) : Except Failure Breakpoint :=
  if bp.enabled then .error (.mustBeDisabled bp.id)
  else (FilterList.readOptional text).map fun classFilters => { bp with classFilters }.markStale

/-- Replaces the thread filters; a blank text removes them. -/
def setThreadFilters (bp : Breakpoint) (text : Option String) : Except Failure Breakpoint :=
  if bp.enabled then .error (.mustBeDisabled bp.id)
  else (FilterList.readOptional text).map fun threadFilters => { bp with threadFilters }.markStale

def addCondition (bp : Breakpoint) (condition : Condition) : Breakpoint :=
  { bp with conditions := bp.conditions ++ [condition] }

/-- Removes the condition at a position, and gives it back. -/
def removeCondition (bp : Breakpoint) (index : Nat) : Option Condition × Breakpoint :=
  (bp.conditions[index]?, { bp with conditions := bp.conditions.eraseIdx index })

def addMonitor (bp : Breakpoint) (monitor : Monitor) : Breakpoint :=
  { bp with monitors := bp.monitors ++ [monitor] }

/-- Removes the first monitor with a given text, and tells whether there was one. -/
def removeMonitor (bp : Breakpoint) (text : String) : Bool × Breakpoint :=
  (bp.monitors.any fun monitor => monitor.text == text,
    { bp with monitors := bp.monitors.eraseP fun monitor => monitor.text == text })

def setProperty (bp : Breakpoint) (key : String) (value : Json) : Breakpoint :=
  { bp with properties := bp.properties.insert key value }

/-- Removes a property, and gives its value back. -/
def removeProperty (bp : Breakpoint) (key : String) : Option Json × Breakpoint :=
  (bp.properties.find? key, { bp with properties := bp.properties.erase key })

/-- Forgets the hits so far; the breakpoint's own flag stays. -/
def reset (bp : Breakpoint) : Breakpoint :=
  { bp with stopCount := 0, expired := false }

/-- A labelled count, left out when it is zero. -/
def countText (label : String) (count : Nat) : String :=
  if count = 0 then "" else " " ++ label ++ "=" ++ toString count

def filterText (label : String) : Option FilterList → String
  | none => ""
  | some filters => " " ++ label ++ "=" ++ filters.text

/-- The line for listings. -/
def describe (bp : Breakpoint) : String :=
  "#" ++ toString bp.id ++ " " ++ bp.spec.text ++ " [" ++ bp.lifecycle.text ++ "]" ++
    countText "skip" bp.skipCount ++ countText "expire" bp.expireCount ++
    countText "hits" bp.stopCount ++ filterText "classes" bp.classFilters ++
    filterText "threads" bp.threadFilters

end Breakpoint

end Breakpoints
