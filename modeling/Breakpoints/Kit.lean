import Breakpoints.Breakpoint.Basic
import Breakpoints.Settings

/-!
What breakpoints are made with: a constructor for each kind, and what evaluates expressions and
runs commands.
-/

namespace Breakpoints

/-- Makes a breakpoint of an id, a specification, a group and the settings. -/
abbrev Constructor := Nat → Spec → Nat → Settings → Breakpoint

structure Kit where
  constructors : Kind → Option Constructor
  evaluator : Option Evaluator
  commandSink : Option CommandSink

namespace Kit

/-- The constructor of most kinds. -/
def construct : Constructor := fun id spec group settings =>
  .create id spec group settings.enabled settings.policy

/-- Traces report and suspend nothing. -/
def constructTrace : Constructor := fun id spec group settings =>
  .create id spec group settings.enabled .nothing

/-- A kit that makes nothing. -/
def bare : Kit :=
  ⟨fun _ => none, none, none⟩

/-- A kit with the usual constructor for every kind. -/
def standard : Kit :=
  ⟨fun kind => some (if kind = .trace then constructTrace else construct), none, none⟩

def isRegistered (kit : Kit) (kind : Kind) : Bool :=
  (kit.constructors kind).isSome

/-- Sets the constructor of a kind. -/
def register (kit : Kit) (kind : Kind) (constructor : Constructor) : Kit :=
  { kit with constructors := fun k => if k = kind then some constructor else kit.constructors k }

/-- A new breakpoint, unless its kind has no constructor. -/
def make (kit : Kit) (id : Nat) (spec : Spec) (group : Nat) (settings : Settings) :
    Except Failure Breakpoint :=
  match kit.constructors spec.kind with
  | none => .error (.unsupportedKind spec.kind)
  | some constructor => .ok (constructor id spec group settings)

def makeCondition (kit : Kit) (expression : String) : Except Failure Condition :=
  match kit.evaluator with
  | none => .error (.settings .noEvaluator)
  | some evaluate => .ok (.ofExpression evaluate expression)

def makeMonitor (kit : Kit) (command : String) : Except Failure Monitor :=
  match kit.commandSink with
  | none => .error (.settings .noCommandSink)
  | some execute => .ok (.ofCommand execute command)

end Kit

end Breakpoints
