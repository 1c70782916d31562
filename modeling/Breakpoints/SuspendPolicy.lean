/-!
What a hit suspends.
-/

namespace Breakpoints

inductive SuspendPolicy where
  | nothing
  | eventThread
  | all
deriving DecidableEq, Repr, Inhabited

namespace SuspendPolicy

/-- The name in listings. -/
def text : SuspendPolicy → String
  | nothing => "none"
  | eventThread => "thread"
  | all => "all"

/-- The number the target knows the policy by. -/
def code : SuspendPolicy → Nat
  | nothing => 0
  | eventThread => 1
  | all => 2

end SuspendPolicy

end Breakpoints
