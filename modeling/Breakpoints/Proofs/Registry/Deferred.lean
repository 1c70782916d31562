import Breakpoints.Proofs.Registry.Creation
import Breakpoints.Proofs.Target.Loading

/-!
Breakpoints that wait for classes.  A breakpoint that is tried again after each class ends up where
one does that is made after the last of them.
-/

namespace Breakpoints.Registry

variable {m : Registry ScriptedTarget}

/-- Arms a request for a breakpoint and binds it. -/
def bindTo (m : Registry ScriptedTarget) (id : Nat) (bp : Breakpoint) (anchor : Anchor) :
    Registry ScriptedTarget :=
  let request : Int := m.target.created + 1
  { m.store { bp with binding := some ⟨request, anchor, false⟩ } id with
    target := (m.target.arm (bp.requestFor anchor)).2
    requests := m.requests.insert request id }

/-- A breakpoint is free, and its specification means something. -/
structure Binds (m : Registry ScriptedTarget) (id : Nat) (bp : Breakpoint) (anchor : Anchor) :
    Prop where
  found : m.find? id = some bp
  live : bp.destroyed = false
  unbound : bp.binding = none
  meaning : bp.spec.resolve m.target = .ok (some anchor)

theorem Binds.resolve {id : Nat} {bp : Breakpoint} {anchor : Anchor} (h : m.Binds id bp anchor)
    (hconnected : m.target.disconnected = false) : (m.resolve id).2 = m.bindTo id bp anchor := by
  simp [Registry.resolve, h.found, h.live, Breakpoint.resolved, h.unbound, h.meaning, Target.arm,
    ScriptedTarget.arm, hconnected, bindTo]

theorem resolve_of_not_binds {id : Nat} (h : ∀ bp anchor, ¬ m.Binds id bp anchor) :
    (m.resolve id).2 = m := by
  rw [resolve]
  split
  · rfl
  next bp hfound =>
    split
    · rfl
    next hlive =>
      split
      · rfl
      next hunbound =>
        split
        · rfl
        · rfl
        next anchor hmeaning =>
          rw [Bool.not_eq_true] at hlive
          have hfree : bp.binding = none := by simpa [Breakpoint.resolved] using hunbound
          exact absurd ⟨hfound, hlive, hfree, hmeaning⟩ (h bp anchor)

/-- An attempt binds the breakpoint, or does nothing when there is nothing to bind. -/
theorem resolve_cases (hconnected : m.target.disconnected = false) (id : Nat) :
    (∃ bp anchor, m.Binds id bp anchor ∧ (m.resolve id).2 = m.bindTo id bp anchor) ∨
      (∀ bp anchor, ¬ m.Binds id bp anchor) ∧ (m.resolve id).2 = m := by
  by_cases h : ∃ bp anchor, m.Binds id bp anchor
  · obtain ⟨bp, anchor, hbinds⟩ := h
    exact .inl ⟨bp, anchor, hbinds, hbinds.resolve hconnected⟩
  · simp only [not_exists] at h
    exact .inr ⟨h, resolve_of_not_binds h⟩

/-- What a binding of a breakpoint is good for: it is to what the specification means, and its
request was armed for that. -/
structure Serves (m : Registry ScriptedTarget) (bp : Breakpoint) (binding : Binding) : Prop where
  meaning : bp.spec.resolve m.target = .ok (some binding.anchor)
  armed : m.target.requests.find? binding.request =
    some ⟨bp.requestFor binding.anchor, bp.enabled && !bp.expired⟩
  issued : binding.request ≤ m.target.created

/-- The target has loaded what `t` has, and a breakpoint is as it was made, apart from a binding
that serves it. -/
structure Follows (m : Registry ScriptedTarget) (id : Nat) (bp : Breakpoint) (t : ScriptedTarget) :
    Prop where
  connected : m.target.disconnected = false
  code : t.SameCode m.target
  found : ∃ binding, m.find? id = some { bp with binding } ∧
    ∀ b, binding = some b → m.Serves bp b

/-- A breakpoint is bound if its specification means anything. -/
def Settled (m : Registry ScriptedTarget) (id : Nat) (bp : Breakpoint) : Prop :=
  ∀ anchor, bp.spec.resolve m.target = .ok (some anchor) →
    ∃ b, m.find? id = some { bp with binding := some b }

section Follows

variable {id : Nat} {bp : Breakpoint} {t : ScriptedTarget}

/-- Arming a request changes nothing that is loaded. -/
theorem resolve_bindTo (hconnected : m.target.disconnected = false) (spec : Spec) (j : Nat)
    (other : Breakpoint) (anchor : Anchor) :
    spec.resolve (m.bindTo j other anchor).target = spec.resolve m.target := by
  apply ScriptedTarget.resolve_congr
  simp [bindTo, ScriptedTarget.arm, hconnected]

theorem find?_bindTo (m : Registry ScriptedTarget) (j : Nat) (other : Breakpoint)
    (anchor : Anchor) (k : Nat) : (m.bindTo j other anchor).find? k =
      if k = j then some { other with binding := some ⟨m.target.created + 1, anchor, false⟩ }
      else m.find? k :=
  find?_of_insert rfl k

/-- A request is not touched when another one is armed. -/
theorem Serves.bindTo {b : Binding} (h : m.Serves bp b) (hconnected : m.target.disconnected = false)
    (j : Nat) (other : Breakpoint) (anchor : Anchor) :
    (m.bindTo j other anchor).Serves bp b where
  meaning := (resolve_bindTo hconnected bp.spec j other anchor).trans h.meaning
  armed := by
    have hissued := h.issued
    have hne : b.request ≠ m.target.created + 1 := by omega
    simp only [Registry.bindTo, ScriptedTarget.arm, hconnected, Bool.false_eq_true, ↓reduceIte,
      Table.find?_insert, if_neg hne]
    exact h.armed
  issued := by
    have hissued := h.issued
    simp only [Registry.bindTo, ScriptedTarget.arm, hconnected, Bool.false_eq_true, ↓reduceIte]
    omega

/-- The request that a breakpoint is bound with serves it. -/
theorem serves_bindTo (hconnected : m.target.disconnected = false) {anchor : Anchor}
    {binding : Option Binding} (h : m.Binds id { bp with binding } anchor) :
    (m.bindTo id { bp with binding } anchor).Serves bp ⟨m.target.created + 1, anchor, false⟩ where
  meaning := (resolve_bindTo hconnected bp.spec id _ anchor).trans h.meaning
  armed := by
    simp only [Registry.bindTo, ScriptedTarget.arm, hconnected, Bool.false_eq_true, ↓reduceIte,
      Table.find?_insert]
    rfl
  issued := by simp [Registry.bindTo, ScriptedTarget.arm, hconnected]

/-- An attempt to bind any breakpoint keeps this one in order. -/
theorem Follows.resolve (h : m.Follows id bp t) (j : Nat) : (m.resolve j).2.Follows id bp t := by
  rcases resolve_cases h.connected j with ⟨other, anchor, hbinds, hbind⟩ | ⟨-, hsame⟩
  · rw [hbind]
    obtain ⟨binding, hfind, hserves⟩ := h.found
    have hconnected : (m.bindTo j other anchor).target.disconnected = false := by
      simp [bindTo, ScriptedTarget.arm, h.connected]
    have hcode : t.SameCode (m.bindTo j other anchor).target := by
      constructor <;>
        simp [bindTo, ScriptedTarget.arm, h.connected, h.code.classes, h.code.loaded,
          h.code.members]
    refine ⟨hconnected, hcode, ?_⟩
    by_cases hj : id = j
    · subst hj
      have hown := hbinds.found
      rw [hfind] at hown
      cases hown
      refine ⟨_, by rw [find?_bindTo, if_pos rfl], ?_⟩
      rintro b ⟨⟩
      exact serves_bindTo h.connected hbinds
    · refine ⟨binding, by rw [find?_bindTo, if_neg hj, hfind], ?_⟩
      intro b hb
      exact (hserves b hb).bindTo h.connected j other anchor
  · rw [hsame]
    exact h

/-- A breakpoint that is bound stays so. -/
theorem Settled.resolve (hsettled : m.Settled id bp) (h : m.Follows id bp t) (j : Nat) :
    (m.resolve j).2.Settled id bp := by
  rcases resolve_cases h.connected j with ⟨other, anchor, hbinds, hbind⟩ | ⟨-, hsame⟩
  · rw [hbind]
    intro meant hmeaning
    rw [resolve_bindTo h.connected] at hmeaning
    obtain ⟨b, hfind⟩ := hsettled meant hmeaning
    have hj : id ≠ j := by
      rintro rfl
      have hunbound := hbinds.unbound
      rw [Option.some.inj (hbinds.found.symm.trans hfind)] at hunbound
      contradiction
    exact ⟨b, by rw [find?_bindTo, if_neg hj, hfind]⟩
  · rw [hsame]
    exact hsettled

/-- An attempt to bind the breakpoint itself settles it. -/
theorem Follows.settled (h : m.Follows id bp t) (hlive : bp.destroyed = false) :
    (m.resolve id).2.Settled id bp := by
  obtain ⟨binding, hfind, -⟩ := h.found
  intro meant hmeaning
  rcases resolve_cases h.connected id with ⟨other, anchor, hbinds, hbind⟩ | ⟨hnothing, hsame⟩
  · have hown := hbinds.found
    rw [hfind] at hown
    cases hown
    rw [hbind]
    exact ⟨_, by rw [find?_bindTo, if_pos rfl]⟩
  · rw [hsame] at hmeaning ⊢
    cases binding with
    | none => exact absurd ⟨hfind, hlive, rfl, hmeaning⟩ (hnothing _ meant)
    | some b => exact ⟨b, hfind⟩

/-- Whatever order the breakpoints are tried in, each of them that is tried gets settled. -/
theorem Follows.resolveEach (h : m.Follows id bp t) (hlive : bp.destroyed = false)
    (ids : List Nat) :
    (m.resolveEach ids).2.Follows id bp t ∧
      (id ∈ ids ∨ m.Settled id bp → (m.resolveEach ids).2.Settled id bp) := by
  rw [resolveEach_snd]
  induction ids generalizing m with
  | nil => exact ⟨h, fun hcase => hcase.resolve_left List.not_mem_nil⟩
  | cons j ids ih =>
      rw [List.foldl_cons]
      obtain ⟨hfollows, hsettles⟩ := ih (h.resolve j)
      refine ⟨hfollows, fun hcase => hsettles ?_⟩
      rw [List.mem_cons] at hcase
      rcases hcase with (rfl | hlater) | hsettled
      · exact .inr (h.settled hlive)
      · exact .inl hlater
      · exact .inr (hsettled.resolve h j)

/-- The target loads a class, and the registry hears of it. -/
def loadClass (m : Registry ScriptedTarget) (file : ClassFile) : Registry ScriptedTarget :=
  let (loaded, target) := m.target.define file
  ({ m with target }.onStructuralChange (.classPrepare loaded)).2

/-- A binding goes on serving its breakpoint when further classes are loaded. -/
theorem Serves.extends {b : Binding} (h : m.Serves bp b) {after : ScriptedTarget}
    (hextends : m.target.Extends after) : { m with target := after }.Serves bp b where
  meaning := by
    have hfound : bp.spec.resolve m.target ≠ .ok none := by simp [h.meaning]
    exact (hextends.resolve hfound).trans h.meaning
  armed := hextends.requests ▸ h.armed
  issued := hextends.created ▸ h.issued

theorem Follows.loadClass (h : m.Follows id bp t) (hlive : bp.destroyed = false) (ht : t.Numbered)
    (file : ClassFile) : (m.loadClass file).Follows id bp (t.define file).2 ∧
      (m.loadClass file).Settled id bp := by
  obtain ⟨hextends, -⟩ := ScriptedTarget.define_extends (h.code.numbered ht) file
  obtain ⟨binding, hfind, hserves⟩ := h.found
  have hloaded : { m with target := (m.target.define file).2 }.Follows id bp (t.define file).2 :=
    { connected := hextends.disconnected.trans h.connected
      code := h.code.define file
      found := ⟨binding, hfind, fun b hb => (hserves b hb).extends hextends⟩ }
  have hlisted : id ∈ m.ids := Table.mem_keys_iff.mpr (Table.contains_eq_true_iff.mpr ⟨_, hfind⟩)
  obtain ⟨hfollows, hsettles⟩ := hloaded.resolveEach hlive m.ids
  exact ⟨hfollows, hsettles (.inl hlisted)⟩

/-- A breakpoint that was tried after each class is bound if its specification means anything. -/
theorem Follows.loadClasses (h : m.Follows id bp t) (hsettled : m.Settled id bp)
    (hlive : bp.destroyed = false) (ht : t.Numbered) (files : List ClassFile) :
    (files.foldl Registry.loadClass m).Follows id bp (t.defineAll files) ∧
      (files.foldl Registry.loadClass m).Settled id bp := by
  induction files generalizing m t with
  | nil => exact ⟨h, hsettled⟩
  | cons file files ih =>
      obtain ⟨hfollows, hsettles⟩ := h.loadClass hlive ht file
      exact ih hfollows hsettles (ScriptedTarget.define_extends ht file).2

/-- Where two registries have the same breakpoint and their targets have loaded the same, it is
bound to the same, if each binds it whenever it can. -/
theorem Follows.agree {m' : Registry ScriptedTarget} (h : m.Follows id bp t)
    (h' : m'.Follows id bp t) (hsettled : m.Settled id bp) (hsettled' : m'.Settled id bp)
    {first second : Option Binding} (hfind : m.find? id = some { bp with binding := first })
    (hfind' : m'.find? id = some { bp with binding := second })
    (hserves : ∀ b, first = some b → m.Serves bp b)
    (hserves' : ∀ b, second = some b → m'.Serves bp b) :
    first.map (·.anchor) = second.map (·.anchor) := by
  have hsame : bp.spec.resolve m'.target = bp.spec.resolve m.target :=
    ScriptedTarget.resolve_congr (h'.code.classes.symm.trans h.code.classes) bp.spec
  cases first with
  | some x =>
      have hmeaning := (hserves x rfl).meaning
      obtain ⟨y, hy⟩ := hsettled' x.anchor (hsame.trans hmeaning)
      rw [hfind'] at hy
      cases hy
      have hmeaning' := (hserves' y rfl).meaning
      rw [hsame, hmeaning] at hmeaning'
      simpa using hmeaning'
  | none =>
      cases second with
      | none => rfl
      | some y =>
          have hmeaning' := (hserves' y rfl).meaning
          obtain ⟨x, hx⟩ := hsettled y.anchor (hsame.symm.trans hmeaning')
          rw [hfind] at hx
          cases hx

/-- Such a breakpoint is also in the same stage of life, with requests alike. -/
theorem Follows.alike {m' : Registry ScriptedTarget} (h : m.Follows id bp t)
    (h' : m'.Follows id bp t) (hsettled : m.Settled id bp) (hsettled' : m'.Settled id bp) :
    ∃ first second : Breakpoint, m.find? id = some first ∧ m'.find? id = some second ∧
      first.lifecycle = second.lifecycle ∧
      first.binding.map (·.anchor) = second.binding.map (·.anchor) ∧
      ∀ x y, first.binding = some x → second.binding = some y → ∃ armed,
        m.target.requests.find? x.request = some armed ∧
        m'.target.requests.find? y.request = some armed := by
  obtain ⟨first, hfind, hserves⟩ := h.found
  obtain ⟨second, hfind', hserves'⟩ := h'.found
  have hanchor := h.agree h' hsettled hsettled' hfind hfind' hserves hserves'
  refine ⟨_, _, hfind, hfind', ?_, hanchor, ?_⟩
  · have hstage : first.isNone = second.isNone := by simpa using congrArg Option.isNone hanchor
    simp only [Breakpoint.lifecycle, hstage]
  · rintro x y rfl rfl
    have heq : x.anchor = y.anchor := by simpa using hanchor
    exact ⟨_, (hserves x rfl).armed, heq ▸ (hserves' y rfl).armed⟩

/-- A breakpoint whose specification has no clear meaning is not bound. -/
theorem Follows.unbound_of_error (h : m.Follows id bp t) {e : Failure}
    (hmeaning : bp.spec.resolve m.target = .error e) :
    m.find? id = some { bp with binding := none } := by
  obtain ⟨binding, hfind, hserves⟩ := h.found
  cases binding with
  | none => exact hfind
  | some b =>
      have hmeant := (hserves b rfl).meaning
      rw [hmeaning] at hmeant
      contradiction

end Follows

section Create

variable {spec : Spec} {group : Nat}

/-- A new breakpoint is not bound yet. -/
theorem Follows.of_new {bp : Breakpoint} {id : Nat} (hconnected : m.target.disconnected = false)
    (hfind : m.find? id = some bp) (hunbound : bp.binding = none) : m.Follows id bp m.target where
  connected := hconnected
  code := ⟨rfl, rfl, rfl⟩
  found := ⟨none, by rw [hfind, ← hunbound], fun b hb => by contradiction⟩

/-- No class is loaded, so no method is ambiguous. -/
theorem resolve_of_empty {t : ScriptedTarget} (hempty : t.classes = []) (spec : Spec) :
    ∃ found, spec.resolve t = .ok found := by
  cases spec with
  | method spec =>
      exact ⟨none, by simp [Spec.resolve, MethodSpec.resolve, Target.classNamed?, hempty]⟩
  | _ => exact ⟨_, rfl⟩

/-- A breakpoint that was just made and is tried at once. -/
theorem resolveNew_follows {id : Nat} {bp : Breakpoint}
    (hsettings : m.settings.resolveOnCreate = true) (hconnected : m.target.disconnected = false)
    (hfind : m.find? id = some bp) (hlive : bp.destroyed = false) (hunbound : bp.binding = none)
    {found : Option Anchor} (hfound : bp.spec.resolve m.target = .ok found) :
    (m.resolveNew id).1 = .ok id ∧ (m.resolveNew id).2.Follows id bp m.target ∧
      (m.resolveNew id).2.Settled id bp := by
  have hnew : m.Follows id bp m.target := .of_new hconnected hfind hunbound
  have hresult : m.resolveNew id = (.ok id, (m.resolve id).2) := by
    rw [resolveNew_eq hsettings hfind hlive hunbound, hfound]
  rw [hresult]
  exact ⟨rfl, hnew.resolve id, hnew.settled hlive⟩

/-- Whether a breakpoint can be made does not depend on the target; if so, it is then tried. -/
theorem createSpec_with_target (hkit : m.kit.Faithful) (spec : Spec) (group : Nat) :
    (∃ (e : Failure) (made : Registry ScriptedTarget), (∀ className methodName candidates,
        e ≠ .ambiguousOverload className methodName candidates) ∧
      ∀ target : ScriptedTarget,
        { m with target }.createSpec spec group = (.error e, { made with target })) ∨
    ∃ (bp : Breakpoint) (made : Registry ScriptedTarget), made.find? m.nextId = some bp ∧
      bp.destroyed = false ∧ bp.binding = none ∧ made.settings = m.settings ∧
      ∀ target : ScriptedTarget,
        { m with target }.createSpec spec group = { made with target }.resolveNew m.nextId := by
  simp only [createSpec, insert_with_target]
  cases hinsert : m.insert spec group .ok with
  | mk result made =>
      cases result with
      | error e =>
          refine .inl ⟨e, made, ?_, fun target => rfl⟩
          rintro className methodName candidates rfl
          rcases insert_eq_error hinsert with ⟨kind, heq⟩ | ⟨missing, heq⟩
          · cases heq
          · cases heq
      | ok id =>
          obtain ⟨rfl, bp, _, groups, hmake, ⟨⟩, hgroups, rfl⟩ := insert_eq_ok hinsert
          have hfresh : bp.Fresh m.nextId group := Kit.make_fresh hkit hmake
          exact .inr ⟨bp, { m.store bp m.nextId with nextId := m.nextId + 1, groups },
            Table.find?_insert_self _ _ _, hfresh.destroyed_eq, hfresh.binding_eq, rfl,
            fun target => rfl⟩

/-- A breakpoint may be made before any class is loaded, and be tried again after each class; or it
may be made when all classes are there, on the same target or on another that has loaded the same.
If the later one can be made, then both are in the same stage of life and bound to the same, if they
are bound, by requests alike.  If the later one is ambiguous, then the earlier one is there and not
bound. -/
theorem createSpec_deferred (hkit : m.kit.Faithful)
    (hsettings : m.settings.resolveOnCreate = true) (hconnected : m.target.disconnected = false)
    (hempty : m.target.classes = []) (spec : Spec) (group : Nat) (files : List ClassFile)
    {t : ScriptedTarget} (hcode : (m.target.defineAll files).SameCode t)
    (hlater : t.disconnected = false) :
    let early := m.createSpec spec group
    let late := { m with target := t }.createSpec spec group
    let waiting := files.foldl loadClass early.2
    (∀ id, late.1 = .ok id → early.1 = .ok id ∧ ∃ first second,
      waiting.find? id = some first ∧ late.2.find? id = some second ∧
      first.lifecycle = second.lifecycle ∧
      first.binding.map (·.anchor) = second.binding.map (·.anchor) ∧
      ∀ x y, first.binding = some x → second.binding = some y → ∃ armed,
        waiting.target.requests.find? x.request = some armed ∧
        late.2.target.requests.find? y.request = some armed) ∧
    (∀ className methodName candidates,
      late.1 = .error (.ambiguousOverload className methodName candidates) →
      ∃ id first, early.1 = .ok id ∧ waiting.find? id = some first ∧ first.destroyed = false ∧
        first.binding = none) := by
  intro early late waiting
  have hnumbered : m.target.Numbered := by
    intro c hc
    simp [hempty] at hc
  rcases createSpec_with_target hkit spec group with
    ⟨e, made, hclear, hcreate⟩ | ⟨bp, made, hfind, hlive, hunbound, hsame, hcreate⟩
  · -- neither can be made, and for the same reason
    have hlate : late.1 = .error e := congrArg Prod.fst (hcreate t)
    refine ⟨fun id hid => by rw [hlate] at hid; contradiction, ?_⟩
    intro className methodName candidates hambiguous
    rw [hlate] at hambiguous
    cases hambiguous
    exact absurd rfl (hclear className methodName candidates)
  · obtain ⟨nothing, hnothing⟩ := resolve_of_empty hempty bp.spec
    have hearly : early = { made with target := m.target }.resolveNew m.nextId := hcreate m.target
    have hlate : late = { made with target := t }.resolveNew m.nextId := hcreate t
    rw [← hsame] at hsettings
    obtain ⟨hmade, hfollows, hsettled⟩ := resolveNew_follows (m := { made with target := m.target })
      hsettings hconnected hfind hlive hunbound hnothing
    rw [← hearly] at hmade hfollows hsettled
    obtain ⟨hwaits, hbinds⟩ := hfollows.loadClasses hsettled hlive hnumbered files
    cases hmeaning : bp.spec.resolve t with
    | error e =>
        have hfailed : late.1 = .error e := by
          rw [hlate, resolveNew_eq (m := { made with target := t }) hsettings hfind hlive hunbound]
          simp only [hmeaning]
        refine ⟨fun id hid => by rw [hfailed] at hid; contradiction, ?_⟩
        intro className methodName candidates _
        have hcodes : waiting.target.classes = t.classes :=
          hwaits.code.classes.symm.trans hcode.classes
        have hmeant := (ScriptedTarget.resolve_congr hcodes bp.spec).trans hmeaning
        exact ⟨m.nextId, _, hmade, hwaits.unbound_of_error hmeant, hlive, rfl⟩
    | ok found =>
        obtain ⟨hmade', hfollows', hsettled'⟩ := resolveNew_follows (m := { made with target := t })
          hsettings hlater hfind hlive hunbound hmeaning
        rw [← hlate] at hmade' hfollows' hsettled'
        refine ⟨?_, fun className methodName candidates h => by rw [hmade'] at h; contradiction⟩
        intro id hid
        rw [hmade'] at hid
        cases hid
        have hfollows : late.2.Follows m.nextId bp (m.target.defineAll files) :=
          { hfollows' with code := hcode.trans hfollows'.code }
        exact ⟨hmade, hwaits.alike hfollows hbinds hsettled'⟩

/-- A breakpoint for an exception class that is loaded second is bound to it, whenever it is
made. -/
theorem createSpec_deferred_caught :
    let m := Registry.create ScriptedTarget.initial .standard .standard
    let spec : Spec := .exceptionCatch "Wanted" true true
    let files : List ClassFile := [⟨"Other", "Other", [.field "f"]⟩, ⟨"Wanted", "Wanted", []⟩]
    let late := { m with target := m.target.defineAll files }.createSpec spec GroupTree.root
    let waiting := files.foldl loadClass (m.createSpec spec GroupTree.root).2
    ∃ first second, waiting.find? 1 = some first ∧ late.2.find? 1 = some second ∧
      first.lifecycle = second.lifecycle ∧
      second.binding.map (·.anchor) = some (.exception (some ⟨0x102, "Wanted"⟩)) := by
  intro m spec files late waiting
  obtain ⟨hmade, -⟩ := createSpec_deferred (m := m) Kit.standard_faithful rfl rfl rfl spec
    GroupTree.root files ⟨rfl, rfl, rfl⟩ rfl
  obtain ⟨-, first, second, hfirst, hsecond, hstage, -⟩ := hmade 1 rfl
  refine ⟨first, second, hfirst, hsecond, hstage, ?_⟩
  have hbound : (late.2.find? 1).bind (·.binding.map (·.anchor)) =
      some (.exception (some ⟨0x102, "Wanted"⟩)) := by rfl
  rw [hsecond] at hbound
  exact hbound

end Create

end Breakpoints.Registry
