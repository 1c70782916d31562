import Breakpoints.Failure
import Breakpoints.SuspendPolicy

/-!
Settings of a registry and its feed.
-/

namespace Breakpoints

/-- The flag and policy that new breakpoints get, whether they are bound at once, and how many
reports and events may wait. -/
structure Settings where
  enabled : Bool
  policy : SuspendPolicy
  resolveOnCreate : Bool
  reportBuffer : Nat
  eventBuffer : Nat
deriving DecidableEq, Repr

namespace Settings

def standard : Settings :=
  ⟨true, .all, true, 256, 32⟩

instance : Inhabited Settings := ⟨standard⟩

/-- Both buffers have to hold something. -/
def check (s : Settings) : Except Failure Unit :=
  if s.reportBuffer = 0 then .error (.settings .reportBuffer)
  else if s.eventBuffer = 0 then .error (.settings .eventBuffer)
  else .ok ()

end Settings

end Breakpoints
