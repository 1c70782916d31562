import Breakpoints.Target.Basic
import Mathlib.Data.List.Basic

/-!
Histories of a target: the states it can come to, with the ids of the requests that it has armed on
the way.  A target that never gives an id twice is one whose histories have no id twice.
-/

namespace Breakpoints.Target

variable {τ : Type} [Target τ]

/-- `History drifts start given t` says that a target which was once in state `start` is now in
state `t` and has meanwhile given out the ids in `given`, the latest first.  Between operations it
may make any of the changes in `drifts`, and its operations may fail at any time. -/
inductive History (drifts : (τ → τ) → Prop) (start : τ) : List Int → τ → Prop where
  | start : History drifts start [] start
  | drift {given : List Int} {t : τ} {change : τ → τ} :
      History drifts start given t → drifts change → History drifts start given (change t)
  | armed {given : List Int} {t t' : τ} {spec : RequestSpec} {request : Int} :
      History drifts start given t → arm t spec = (.ok request, t') →
        History drifts start (request :: given) t'
  | refused {given : List Int} {t t' : τ} {spec : RequestSpec} {e : TargetFailure} :
      History drifts start given t → arm t spec = (.error e, t') →
        History drifts start given t'
  | switched {given : List Int} {t : τ} (request : Int) (enabled : Bool) :
      History drifts start given t → History drifts start given (setArmed t request enabled).2
  | cleared {given : List Int} {t : τ} (request : Int) :
      History drifts start given t → History drifts start given (clear t request).2

/-- From `start` on the target never gives one id to two requests. -/
def NeverReissues (drifts : (τ → τ) → Prop) (start : τ) : Prop :=
  ∀ given t, History drifts start given t → given.Nodup

/-- The id of a new request was not given before. -/
theorem NeverReissues.not_mem {drifts : (τ → τ) → Prop} {start : τ}
    (hfresh : NeverReissues drifts start) {given : List Int} {t t' : τ} {spec : RequestSpec}
    {request : Int} (hist : History drifts start given t)
    (harm : arm t spec = (.ok request, t')) : request ∉ given :=
  (List.nodup_cons.mp (hfresh _ _ (hist.armed harm))).1

end Breakpoints.Target
