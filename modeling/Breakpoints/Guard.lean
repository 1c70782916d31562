import Breakpoints.Event

/-!
Conditions, which can veto a stop, and monitors, which run once a stop is decided.
-/

namespace Breakpoints

structure ConditionFailure where
  expression : String
  reason : String
deriving DecidableEq, Repr

def ConditionFailure.message (failure : ConditionFailure) : String :=
  "Condition '" ++ failure.expression ++ "' failed to evaluate: " ++ failure.reason

structure MonitorFailure where
  command : String
  reason : String
deriving DecidableEq, Repr

def MonitorFailure.message (failure : MonitorFailure) : String :=
  "Monitor '" ++ failure.command ++ "' failed: " ++ failure.reason

/-- A condition and its text.  The check fails when it has no answer, and tells the expression that
is at fault, which need not be the text. -/
structure Condition where
  text : String
  check : TargetState → Except ConditionFailure Bool

/-- A monitor and its text.  A run that fails tells the command that is at fault. -/
structure Monitor where
  text : String
  run : TargetState → Except MonitorFailure Unit

/-- What evaluates expressions in the stopped target.  It fails with a reason. -/
abbrev Evaluator := String → TargetState → Except String Bool

/-- What runs commands of the debugger.  It fails with a reason. -/
abbrev CommandSink := String → TargetState → Except String Unit

def Condition.ofExpression (evaluate : Evaluator) (expression : String) : Condition where
  text := expression
  check state := (evaluate expression state).mapError fun reason => ⟨expression, reason⟩

def Monitor.ofCommand (execute : CommandSink) (command : String) : Monitor where
  text := command
  run state := (execute command state).mapError fun reason => ⟨command, reason⟩

/-- A check or a run that a hit has caused. -/
inductive Call where
  | checked (text : String)
  | ran (text : String)
deriving DecidableEq, Repr

end Breakpoints
