import Breakpoints.Proofs.Target.Scripted
import Breakpoints.Target.Resolution

/-!
A target with a connection arms every request that it is asked for.  What it has loaded does not
depend on the requests armed in it, so no request changes what a specification means.
-/

namespace Breakpoints

namespace Target

variable {τ : Type} [Target τ] {t t' t'' : τ}

/-- Two targets that answer every question in the same way. -/
structure SameView (t t' : τ) : Prop where
  currentLocation : currentLocation t' = currentLocation t
  classNamed? : classNamed? t' = classNamed? t
  classesFrom : classesFrom t' = classesFrom t
  codeAt? : codeAt? t' = codeAt? t
  methods : methods t' = methods t
  field? : field? t' = field? t
  threadGroups : threadGroups t' = threadGroups t

theorem SameView.refl (t : τ) : SameView t t :=
  ⟨rfl, rfl, rfl, rfl, rfl, rfl, rfl⟩

theorem SameView.trans (h : SameView t t') (h' : SameView t' t'') : SameView t t'' where
  currentLocation := h'.currentLocation.trans h.currentLocation
  classNamed? := h'.classNamed?.trans h.classNamed?
  classesFrom := h'.classesFrom.trans h.classesFrom
  codeAt? := h'.codeAt?.trans h.codeAt?
  methods := h'.methods.trans h.methods
  field? := h'.field?.trans h.field?
  threadGroups := h'.threadGroups.trans h.threadGroups

/-- The answers tell what a specification means. -/
theorem SameView.resolve (h : SameView t t') (spec : Spec) : spec.resolve t' = spec.resolve t := by
  cases spec with
  | line spec => simp only [Spec.resolve, LineSpec.resolve, h.classesFrom, h.codeAt?]
  | method spec => simp only [Spec.resolve, MethodSpec.resolve, h.classNamed?, h.methods]
  | fieldWatch className fieldName onAccess onModify =>
      simp only [Spec.resolve, h.classNamed?, h.field?]
  | exceptionCatch className caught uncaught => simp only [Spec.resolve, h.classNamed?]
  | _ => rfl

/-- `Arms t armed t'` says that `t` becomes `t'` by arming requests one after another, each under
its id. -/
inductive Arms : τ → List (RequestSpec × Int) → τ → Prop where
  | nil (t : τ) : Arms t [] t
  | cons {t t' t'' : τ} {spec : RequestSpec} {request : Int} {armed : List (RequestSpec × Int)} :
      arm t spec = (.ok request, t') → Arms t' armed t'' → Arms t ((spec, request) :: armed) t''

/-- Whatever requests it has armed by then, the target arms the next one too, and answers as
before. -/
def Connected (t : τ) : Prop :=
  ∀ armed t', Arms t armed t' →
    ∀ spec, ∃ request t'', arm t' spec = (.ok request, t'') ∧ SameView t' t''

theorem Connected.arm (h : Connected t) (spec : RequestSpec) :
    ∃ request t', Target.arm t spec = (.ok request, t') ∧ SameView t t' ∧ Connected t' := by
  obtain ⟨request, t', harm, hview⟩ := h [] t (.nil t) spec
  exact ⟨request, t', harm, hview, fun armed t'' harms => h _ t'' (.cons harm harms)⟩

end Target

namespace ScriptedTarget

variable {t : ScriptedTarget}

theorem arm_of_connected (h : t.disconnected = false) (spec : RequestSpec) :
    t.arm spec = (.ok (t.created + 1),
      { t with
        created := t.created + 1
        requests := t.requests.insert (t.created + 1) ⟨spec, spec.enabled⟩ }) := by
  rw [arm, h, if_neg Bool.false_ne_true]

/-- A scripted target refuses a request only without a connection. -/
theorem connected_iff : Target.Connected t ↔ t.disconnected = false := by
  constructor
  · intro h
    let spec : RequestSpec := ⟨.trace, .filter, .nothing, none, none, false⟩
    obtain ⟨request, t', harm, -⟩ := h [] t (.nil t) spec
    have hanswer : t.arm spec = (.ok request, t') := harm
    cases hflag : t.disconnected with
    | false => rfl
    | true =>
        rw [arm, hflag] at hanswer
        cases hanswer
  · intro hconnected armed t' harms
    have hstays : t'.disconnected = false := by
      induction harms with
      | nil t => exact hconnected
      | cons harm _ ih =>
          obtain ⟨-, rfl⟩ := arm_eq_ok harm
          exact ih hconnected
    exact fun spec => ⟨_, _, arm_of_connected hstays spec, ⟨rfl, rfl, rfl, rfl, rfl, rfl, rfl⟩⟩

end ScriptedTarget

end Breakpoints
