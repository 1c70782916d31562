import Breakpoints.Kind

/-!
The ways in which an operation fails, by cause, and the message for each.
-/

namespace Breakpoints

/-- Why the target refused. -/
inductive TargetFailure where
  | disconnected
  | invalidRequest (request : Int)
  | other (reason : String)
deriving DecidableEq, Repr

def TargetFailure.message : TargetFailure → String
  | disconnected => "Target VM disconnected"
  | invalidRequest request => "Invalid event request " ++ toString request
  | other reason => reason

/-- What is wrong with, or missing from, the settings. -/
inductive SettingsFault where
  | malformed
  | reportBuffer
  | eventBuffer
  | noEvaluator
  | noCommandSink
deriving DecidableEq, Repr

def SettingsFault.message : SettingsFault → String
  | malformed => "malformed text"
  | reportBuffer => "report_buffer must be positive"
  | eventBuffer => "event_buffer must be positive"
  | noEvaluator => "no expression evaluator configured"
  | noCommandSink => "no command sink configured"

inductive Failure where
  | malformedText (text : String)
  | lineNumber (digits : String)
  | noCurrentLocation
  | ambiguousOverload (className methodName : String) (candidates : Nat)
  | malformedClass (name : String)
  | malformedMember (name : String)
  | malformedFilter (text : String)
  | unknownBreakpoint (id : Nat)
  | unknownGroup (group : Nat)
  | mustBeDisabled (id : Nat)
  | groupCycle (group : Nat)
  | rootGroup
  | unsupportedKind (kind : Kind)
  | target (cause : TargetFailure)
  | settings (fault : SettingsFault)
  | feedClosed
deriving DecidableEq, Repr

def Failure.message : Failure → String
  | malformedText text => "Malformed breakpoint spec: " ++ text
  | lineNumber digits => "Invalid line number: " ++ digits
  | noCurrentLocation => "No current location; specify a class or file explicitly"
  | ambiguousOverload className methodName candidates =>
    className ++ "." ++ methodName ++ " matches " ++ toString candidates ++
      " overloads; specify parameter types"
  | malformedClass name => "Malformed class name: " ++ name
  | malformedMember name => "Malformed member name: " ++ name
  | malformedFilter text => "Malformed filter: " ++ text
  | unknownBreakpoint id => "No such breakpoint: " ++ toString id
  | unknownGroup group => "No such breakpoint group: " ++ toString group
  | mustBeDisabled id =>
    "Breakpoint " ++ toString id ++
      " must be disabled before changing its filters or suspend policy"
  | groupCycle group => "Moving group " ++ toString group ++ " there would create a cycle"
  | rootGroup => "The default group cannot be removed or moved"
  | unsupportedKind kind => "No constructor registered for breakpoint kind " ++ kind.name
  | target cause => "Target error: " ++ cause.message
  | settings fault => "Invalid configuration: " ++ fault.message
  | feedClosed => "Event dispatcher has shut down"

end Breakpoints
