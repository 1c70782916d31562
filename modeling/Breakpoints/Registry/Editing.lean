import Breakpoints.Registry.Basic

/-!
Changes to the configuration of one breakpoint.
-/

namespace Breakpoints.Registry

variable {τ : Type}

def setSkipCount (m : Registry τ) (id skipCount : Nat) : Except Failure Unit × Registry τ :=
  m.update id fun bp => .ok { bp with skipCount }

def setExpireCount (m : Registry τ) (id expireCount : Nat) : Except Failure Unit × Registry τ :=
  m.update id fun bp => .ok { bp with expireCount }

def setDeleteOnExpire (m : Registry τ) (id : Nat) (deleteOnExpire : Bool) :
    Except Failure Unit × Registry τ :=
  m.update id fun bp => .ok { bp with deleteOnExpire }

def setPolicy (m : Registry τ) (id : Nat) (policy : SuspendPolicy) :
    Except Failure Unit × Registry τ :=
  m.update id fun bp => bp.setPolicy policy

def setClassFilters (m : Registry τ) (id : Nat) (text : Option String) :
    Except Failure Unit × Registry τ :=
  m.update id fun bp => bp.setClassFilters text

def setThreadFilters (m : Registry τ) (id : Nat) (text : Option String) :
    Except Failure Unit × Registry τ :=
  m.update id fun bp => bp.setThreadFilters text

/-- Adds a condition. -/
def attachCondition (m : Registry τ) (id : Nat) (condition : Condition) :
    Except Failure Unit × Registry τ :=
  m.update id fun bp => .ok (bp.addCondition condition)

/-- Adds a condition that the kit's evaluator checks. -/
def addCondition (m : Registry τ) (id : Nat) (expression : String) :
    Except Failure Unit × Registry τ :=
  match m.kit.makeCondition expression with
  | .error e => (.error e, m)
  | .ok condition => m.attachCondition id condition

/-- Removes the condition at a position, and tells whether there was one. -/
def removeCondition (m : Registry τ) (id index : Nat) : Except Failure Bool × Registry τ :=
  m.extract id fun bp =>
    let (removed, bp) := bp.removeCondition index
    (removed.isSome, bp)

/-- Adds a monitor. -/
def attachMonitor (m : Registry τ) (id : Nat) (monitor : Monitor) :
    Except Failure Unit × Registry τ :=
  m.update id fun bp => .ok (bp.addMonitor monitor)

/-- Adds a monitor that the kit's command sink runs. -/
def addMonitor (m : Registry τ) (id : Nat) (command : String) :
    Except Failure Unit × Registry τ :=
  match m.kit.makeMonitor command with
  | .error e => (.error e, m)
  | .ok monitor => m.attachMonitor id monitor

/-- Removes the first monitor with a text, and tells whether there was one. -/
def removeMonitor (m : Registry τ) (id : Nat) (text : String) :
    Except Failure Bool × Registry τ :=
  m.extract id fun bp => bp.removeMonitor text

def setProperty (m : Registry τ) (id : Nat) (key : String) (value : Json) :
    Except Failure Unit × Registry τ :=
  m.update id fun bp => .ok (bp.setProperty key value)

def removeProperty (m : Registry τ) (id : Nat) (key : String) :
    Except Failure (Option Json) × Registry τ :=
  m.extract id fun bp => bp.removeProperty key

end Breakpoints.Registry
