import Breakpoints.Proofs.Registry.Created
import Breakpoints.Proofs.Registry.Restored

/-!
What the target learns of a new breakpoint.  A request names the kind of the breakpoint and what it
binds to, and nothing else of its specification: the texts of the filters and the flags that tell
the events apart stay behind.
-/

namespace Breakpoints

/-- A target together with the requests that it was asked to arm, in their order. -/
structure Recording (τ : Type) where
  inner : τ
  asked : List RequestSpec

instance {τ : Type} [Target τ] : Target (Recording τ) where
  currentLocation t := Target.currentLocation t.inner
  classNamed? t := Target.classNamed? t.inner
  classesFrom t := Target.classesFrom t.inner
  codeAt? t := Target.codeAt? t.inner
  methods t := Target.methods t.inner
  field? t := Target.field? t.inner
  threadGroups t := Target.threadGroups t.inner
  arm t spec :=
    let (answer, inner) := Target.arm t.inner spec
    (answer, ⟨inner, t.asked ++ [spec]⟩)
  setArmed t request enabled :=
    let (answer, inner) := Target.setArmed t.inner request enabled
    (answer, { t with inner })
  clear t request :=
    let (answer, inner) := Target.clear t.inner request
    (answer, { t with inner })

namespace Spec

/-- Which events a specification asks for at what it binds to: the texts of its filters, and its
flags. -/
def wanted : Spec → List (Option String) × List Bool
  | classPattern filter onPrepare onUnload => ([some filter], [onPrepare, onUnload])
  | threadLifecycle filter onStart onDeath => ([filter], [onStart, onDeath])
  | fieldWatch _ _ onAccess onModify => ([], [onAccess, onModify])
  | exceptionCatch _ caught uncaught => ([], [caught, uncaught])
  | trace classFilter threadFilter onEnter onExit =>
    ([classFilter, threadFilter], [onEnter, onExit])
  | line _ | method _ | uncaughtException | explicitLocation _ => ([], [])

/-- What is left of a specification without the events that it asks for. -/
def sought : Spec → Spec
  | classPattern .. => classPattern "" false false
  | threadLifecycle .. => threadLifecycle none false false
  | fieldWatch className fieldName _ _ => fieldWatch className fieldName false false
  | exceptionCatch className _ _ => exceptionCatch className false false
  | trace .. => trace none none false false
  | spec => spec

/-- The events that it asks for have no part in what a specification binds to. -/
theorem resolve_sought {τ : Type} [Target τ] (spec : Spec) (target : τ) :
    spec.sought.resolve target = spec.resolve target := by
  cases spec <;> rfl

end Spec

/-- What a usual constructor makes. -/
theorem Kit.Usual.make_eq {kit : Kit} (hkit : kit.Usual) {spec : Spec}
    (hkind : kit.isRegistered spec.kind = true) (id group : Nat) (settings : Settings) :
    kit.make id spec group settings = .ok (.create id spec group settings.enabled
      (if spec.kind = .trace then .nothing else settings.policy)) := by
  obtain ⟨constructor, hfound⟩ := Option.isSome_iff_exists.mp hkind
  have husual := hkit spec.kind constructor hfound
  rw [standard, Option.some_inj] at husual
  rw [make, hfound, ← husual]
  by_cases htrace : spec.kind = .trace
  · rw [if_pos htrace, if_pos htrace]
    rfl
  · rw [if_neg htrace, if_neg htrace]
    rfl

namespace Registry

variable {τ : Type} [Target τ]

/-- The registry once a new breakpoint was tried: when it was created, if the settings say so, or by
the next attempt. -/
def tried (m : Registry τ) : Except Failure Nat × Registry τ → Registry τ
  | (.ok id, m') => if m.settings.resolveOnCreate then m' else (m'.resolve id).2
  | (.error _, m') => m'

/-- Each of two ways to go on asks the target for one request, and the two requests are the same
exactly if the two anchors are. -/
def AsksApart (m m₁ m₂ : Registry (Recording τ)) (anchor₁ anchor₂ : Anchor) : Prop :=
  ∃ request₁ request₂, m₁.target.asked = m.target.asked ++ [request₁] ∧
    m₂.target.asked = m.target.asked ++ [request₂] ∧ (request₁ = request₂ ↔ anchor₁ = anchor₂)

section Asked

variable {m : Registry (Recording τ)} {id : Nat} {bp : Breakpoint} {anchor : Anchor}

/-- Binding asks the target for one request. -/
theorem resolve_asked (h : m.unbound? id = some bp)
    (hmeans : bp.spec.resolve m.target = .ok (some anchor)) :
    (m.resolve id).2.target.asked = m.target.asked ++ [bp.requestFor anchor] := by
  rw [resolve_of_unbound h, hmeans]
  dsimp only
  have harm : (Target.arm m.target (bp.requestFor anchor)).2.asked =
    m.target.asked ++ [bp.requestFor anchor] := rfl
  rcases hanswer : Target.arm m.target (bp.requestFor anchor) with ⟨e | request, target⟩
  · rwa [hanswer] at harm
  · rwa [hanswer] at harm

/-- A new breakpoint asks once, early or late. -/
theorem tried_placed {group : Nat} (groups : GroupTree) (hfresh : bp.Fresh m.nextId group)
    (hmeans : bp.spec.resolve m.target = .ok (some anchor)) :
    let placed : Registry (Recording τ) :=
      { m.store bp m.nextId with nextId := m.nextId + 1, groups }
    (m.tried (placed.resolveNew m.nextId)).target.asked =
      m.target.asked ++ [bp.requestFor anchor] := by
  intro placed
  have hfind : placed.find? m.nextId = some bp :=
    (find?_of_insert (m := m) rfl m.nextId).trans (if_pos rfl)
  have hunbound : placed.unbound? m.nextId = some bp := by
    refine unbound?_eq_some_iff.mpr ⟨hfind, ?_, hfresh.destroyed_eq⟩
    rw [Breakpoint.resolved, hfresh.binding_eq, Option.isSome_none]
  have hasked := resolve_asked hunbound hmeans
  -- the one attempt is made in the creation or after it
  by_cases hbinds : m.settings.resolveOnCreate = true
  · have hearly : placed.settings.resolveOnCreate = true := hbinds
    have hmeaning : bp.spec.resolve placed.target = .ok (some anchor) := hmeans
    rw [resolveNew_eq hearly hfind hfresh.destroyed_eq hfresh.binding_eq, hmeaning]
    dsimp only
    rw [tried, if_pos hbinds]
    exact hasked
  · have hlate : ¬ placed.settings.resolveOnCreate = true := hbinds
    rw [resolveNew, if_neg hlate, tried, if_neg hbinds]
    exact hasked

theorem createSpec_asked_of_make (hkit : m.kit.Faithful) {spec : Spec} {group : Nat}
    (hmake : m.kit.make m.nextId spec group m.settings = .ok bp)
    (hgroup : m.groups.contains group = true)
    (hmeans : bp.spec.resolve m.target = .ok (some anchor)) :
    (m.tried (m.createSpec spec group)).target.asked =
      m.target.asked ++ [bp.requestFor anchor] := by
  rw [createSpec, insert_of_contains hmake hgroup]
  exact tried_placed (m.place bp group).groups (Kit.make_fresh hkit hmake) hmeans

/-- A breakpoint that is created asks for hits as the settings say. -/
theorem createSpec_asked (hkit : m.kit.Usual) {spec : Spec} {group : Nat}
    (hkind : m.kit.isRegistered spec.kind = true) (hgroup : m.groups.contains group = true)
    (hmeans : spec.resolve m.target = .ok (some anchor)) :
    (m.tried (m.createSpec spec group)).target.asked = m.target.asked ++
      [⟨spec.kind, anchor, if spec.kind = .trace then .nothing else m.settings.policy, none, none,
        m.settings.enabled⟩] := by
  have hmake := hkit.make_eq hkind m.nextId group m.settings
  rw [createSpec_asked_of_make hkit.faithful hmake hgroup hmeans, Breakpoint.requestFor,
    (Kit.make_fresh hkit.faithful hmake).expired_eq, Bool.not_false, Bool.and_true]
  rfl

/-- A breakpoint that is restored asks for hits as its record says. -/
theorem restore_asked (hkit : m.kit.Usual) {record : Record}
    (h : (m.restore record).1 = .ok id)
    (hmeans : record.spec.resolve m.target = .ok (some anchor)) :
    ∃ classFilters threadFilters,
      FilterList.readOptional record.classFilters = .ok classFilters ∧
      FilterList.readOptional record.threadFilters = .ok threadFilters ∧
      (m.tried (m.restore record)).target.asked = m.target.asked ++
        [⟨record.spec.kind, anchor, record.policy, classFilters, threadFilters,
          record.enabled⟩] := by
  obtain ⟨group, grown, bp, groups, -, hmakes, -, hrestore⟩ := restore_places (Prod.ext h rfl)
  have hfresh := hmakes.fresh hkit.faithful
  rw [← hmakes.spec_eq hkit.plain] at hmeans
  have hnew : bp.expired = false := hfresh.expired_eq
  rw [hrestore, tried_placed groups hfresh hmeans, Breakpoint.requestFor, Breakpoint.kind,
    hmakes.spec_eq hkit.plain, hnew, Bool.not_false, Bool.and_true]
  obtain ⟨_, _, made, -, -, -, hbp⟩ := hmakes
  obtain ⟨classFilters, threadFilters, hclass, hthread, rfl⟩ := Record.configure_eq_ok_iff.mp hbp
  exact ⟨classFilters, threadFilters, hclass, hthread, rfl⟩

end Asked

/-- What the target learns of two new breakpoints of one kind that are set up alike, by the settings
or from a record.  It is asked for one request for each, sooner or later, and these two requests are
different exactly if the breakpoints bind to different things.  The events that the specifications
ask for have no part in this: if the specifications are alike in all else, the requests are the
same. -/
theorem request_tells_anchor {m : Registry (Recording τ)} (hkit : m.kit.Usual) {spec spec' : Spec}
    {anchor anchor' : Anchor} (hkind : spec.kind = spec'.kind)
    (hmeans : spec.resolve m.target = .ok (some anchor))
    (hmeans' : spec'.resolve m.target = .ok (some anchor')) :
    (∀ group, m.kit.isRegistered spec.kind = true → m.groups.contains group = true →
      m.AsksApart (m.tried (m.createSpec spec group)) (m.tried (m.createSpec spec' group))
        anchor anchor') ∧
    (∀ (record : Record) id id', (m.restore { record with spec }).1 = .ok id →
      (m.restore { record with spec := spec' }).1 = .ok id' →
      m.AsksApart (m.tried (m.restore { record with spec }))
        (m.tried (m.restore { record with spec := spec' })) anchor anchor') ∧
    (spec.sought = spec'.sought → anchor = anchor') := by
  refine ⟨fun group hregistered hgroup => ?_, fun record id id' h h' => ?_, fun halike => ?_⟩
  · refine ⟨_, _, createSpec_asked hkit hregistered hgroup hmeans,
      createSpec_asked hkit (hkind ▸ hregistered) hgroup hmeans', ?_⟩
    rw [RequestSpec.mk.injEq, hkind]
    simp
  · obtain ⟨classes, threads, hclass, hthread, hasked⟩ := restore_asked hkit h hmeans
    obtain ⟨classes', threads', hclass', hthread', hasked'⟩ := restore_asked hkit h' hmeans'
    refine ⟨_, _, hasked, hasked', ?_⟩
    have hsameClass : classes = classes' := Except.ok.inj (hclass.symm.trans hclass')
    have hsameThread : threads = threads' := Except.ok.inj (hthread.symm.trans hthread')
    rw [RequestSpec.mk.injEq, hsameClass, hsameThread]
    simp [hkind]
  · rw [← Spec.resolve_sought, halike, Spec.resolve_sought, hmeans'] at hmeans
    exact (Option.some_inj.mp (Except.ok.inj hmeans)).symm

/-- Watches of two fields are told apart. -/
theorem request_tells_anchor_watches :
    let start := (ScriptedTarget.initial.define ⟨"A", "A.java", [.field "f", .field "g"]⟩).2
    let m := create (⟨start, []⟩ : Recording ScriptedTarget) .standard .standard
    let first : Spec := .fieldWatch "A" "f" true false
    let second : Spec := .fieldWatch "A" "g" true false
    (m.tried (m.createSpec first GroupTree.root)).target.asked ≠
      (m.tried (m.createSpec second GroupTree.root)).target.asked := by
  intro start m first second
  have hkit : m.kit.Usual := fun _ _ hfound => hfound
  have hmeans : first.resolve m.target =
      .ok (some (.field ⟨0x101, "A"⟩ ⟨0x1001, "f"⟩)) := by rfl
  have hmeans' : second.resolve m.target =
      .ok (some (.field ⟨0x101, "A"⟩ ⟨0x1002, "g"⟩)) := by rfl
  have hkind : first.kind = second.kind := rfl
  obtain ⟨hcreate, -, -⟩ := request_tells_anchor hkit hkind hmeans hmeans'
  obtain ⟨request, request', hasked, hasked', hiff⟩ := hcreate GroupTree.root rfl rfl
  rw [hasked, hasked']
  intro hsame
  have hanchors := hiff.mp (by simpa using hsame)
  simp at hanchors

/-- Specifications of one kind that ask for different events, and the same request for both. -/
theorem request_leaves_out_wanted :
    let start := (ScriptedTarget.initial.define ⟨"A", "A.java", [.field "f"]⟩).2
    let m := create (⟨start, []⟩ : Recording ScriptedTarget) .standard .standard
    let pairs : List (Spec × Spec) :=
      [(.classPattern "com.a.*" true false, .classPattern "org.b.*" false true),
        (.threadLifecycle (some "main") true false, .threadLifecycle none false true),
        (.fieldWatch "A" "f" true false, .fieldWatch "A" "f" false true),
        (.exceptionCatch "A" true false, .exceptionCatch "A" false true),
        (.trace (some "A") none true false, .trace none (some "main") false true)]
    ∀ pair ∈ pairs, pair.1.kind = pair.2.kind ∧ pair.1.wanted ≠ pair.2.wanted ∧
      (pair.1.resolve m.target).toOption.join.isSome = true ∧
      (pair.2.resolve m.target).toOption.join.isSome = true ∧
      (m.tried (m.createSpec pair.1 GroupTree.root)).target.asked.length = 1 ∧
      (m.tried (m.createSpec pair.1 GroupTree.root)).target.asked =
        (m.tried (m.createSpec pair.2 GroupTree.root)).target.asked := by
  decide +kernel

end Registry

end Breakpoints
