/-!
The kinds of breakpoint.
-/

namespace Breakpoints

inductive Kind where
  | line
  | method
  | classPattern
  | threadLifecycle
  | fieldWatch
  | exceptionCatch
  | uncaughtException
  | trace
  | explicitLocation
deriving DecidableEq, Repr, Inhabited

namespace Kind

/-- Every kind, in the order of listings. -/
def all : List Kind :=
  [line, method, classPattern, threadLifecycle, fieldWatch, exceptionCatch, uncaughtException,
   trace, explicitLocation]

def name : Kind → String
  | line => "line"
  | method => "method"
  | classPattern => "class_pattern"
  | threadLifecycle => "thread_lifecycle"
  | fieldWatch => "field_watch"
  | exceptionCatch => "exception_catch"
  | uncaughtException => "uncaught_exception"
  | trace => "trace"
  | explicitLocation => "explicit_location"

/-- The kind with a given name. -/
def ofName? (s : String) : Option Kind :=
  all.find? fun kind => kind.name == s

theorem ofName?_name (kind : Kind) : ofName? kind.name = some kind := by
  cases kind <;> decide

end Kind

end Breakpoints
