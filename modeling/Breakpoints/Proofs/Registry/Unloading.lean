import Breakpoints.Proofs.Registry.Pending
import Breakpoints.Proofs.Registry.Removal

/-!
Bindings that end because the target has lost something: a class that was unloaded, or all of it.
The breakpoints are gone through one by one.  A breakpoint that is released does not change whether
another one is, so what comes of the row is told from the state before it.
-/

namespace Breakpoints

/-- A binding is in the class that has its place or its member, or that it catches.  One to a bare
place, to all uncaught exceptions or to filters only is in no class. -/
inductive Anchor.IsIn : Anchor → String → Prop where
  | location (owner : ClassHandle) (place : Location) :
      IsIn (.location (some owner) place) owner.name
  | method (owner : ClassHandle) (member : MethodInfo) : IsIn (.method owner member) owner.name
  | field (owner : ClassHandle) (member : FieldHandle) : IsIn (.field owner member) owner.name
  | exception (thrown : ClassHandle) : IsIn (.exception (some thrown)) thrown.name

theorem Anchor.className?_eq_some_iff {anchor : Anchor} {name : String} :
    anchor.className? = some name ↔ anchor.IsIn name := by
  constructor
  · intro hname
    cases anchor with
    | location owner place =>
        obtain ⟨owner, rfl, rfl⟩ := Option.map_eq_some_iff.mp hname
        exact .location owner place
    | method owner member =>
        cases hname
        exact .method owner member
    | field owner member =>
        cases hname
        exact .field owner member
    | exception thrown =>
        obtain ⟨thrown, rfl, rfl⟩ := Option.map_eq_some_iff.mp hname
        exact .exception thrown
    | filter => contradiction
  · rintro (_ | _ | _ | _) <;> rfl

namespace Registry

section Row

variable {τ : Type} {m : Registry τ} {released : Anchor → Bool} {clearing : Bool} {id : Nat}

/-- Whether a breakpoint is bound to one of the anchors `released`. -/
def isBoundIn (m : Registry τ) (released : Anchor → Bool) (id : Nat) : Bool :=
  ((m.find? id).bind (·.binding)).any fun binding => released binding.anchor

/-- The breakpoints that are bound to one of the anchors `released`, in the order of their
creation. -/
def boundIn (m : Registry τ) (released : Anchor → Bool) : List Nat :=
  m.ids.filter (m.isBoundIn released)

theorem isBoundIn_eq_true_iff : m.isBoundIn released id = true ↔
    ∃ bp binding, m.find? id = some bp ∧ bp.binding = some binding ∧
      released binding.anchor = true := by
  simp only [isBoundIn, Option.any_eq_true, Option.bind_eq_some_iff]
  constructor
  · rintro ⟨binding, ⟨bp, hfind, hbinding⟩, hreleased⟩
    exact ⟨bp, binding, hfind, hbinding, hreleased⟩
  · rintro ⟨bp, binding, hfind, hbinding, hreleased⟩
    exact ⟨binding, ⟨bp, hfind, hbinding⟩, hreleased⟩

theorem mem_ids_iff : id ∈ m.ids ↔ ∃ bp, m.find? id = some bp := by
  rw [ids, Table.mem_keys_iff, Table.contains_eq_true_iff]
  rfl

theorem mem_boundIn_iff : id ∈ m.boundIn released ↔
    ∃ bp binding, m.find? id = some bp ∧ bp.binding = some binding ∧
      released binding.anchor = true := by
  rw [boundIn, List.mem_filter, isBoundIn_eq_true_iff, mem_ids_iff, and_iff_right_iff_imp]
  rintro ⟨bp, binding, hfind, -⟩
  exact ⟨bp, hfind⟩

theorem unbound_of_not_mem_boundIn {bp : Breakpoint} (hfind : m.find? id = some bp)
    (h : id ∉ m.boundIn fun _ => true) : bp.binding = none := by
  rw [mem_boundIn_iff] at h
  cases hbinding : bp.binding with
  | none => rfl
  | some binding => exact absurd ⟨bp, binding, hfind, hbinding, rfl⟩ h

theorem ids_nodup (m : Registry τ) : m.ids.Nodup :=
  m.ids_ascending.imp Nat.ne_of_lt

theorem boundIn_nodup (m : Registry τ) (released : Anchor → Bool) : (m.boundIn released).Nodup :=
  m.ids_nodup.filter _

variable [Target τ]

theorem unbind_of_not_bound (h : m.isBoundIn released id = false) (clearing : Bool) :
    m.unbind released clearing id = m := by
  rw [unbind]
  split
  · rfl
  next bp hfind =>
    split
    · rfl
    next binding hbinding =>
      split
      next hreleased =>
        have hbound := isBoundIn_eq_true_iff.mpr ⟨bp, binding, hfind, hbinding, hreleased⟩
        rw [h] at hbound
        contradiction
      next => rfl

theorem unbind_of_bound {bp : Breakpoint} {binding : Binding} (hfind : m.find? id = some bp)
    (hbinding : bp.binding = some binding) (hreleased : released binding.anchor = true)
    (clearing : Bool) :
    m.unbind released clearing id =
      { m.store { bp with binding := none } id with
        requests := m.requests.erase binding.request
        target := if clearing then (Target.clear m.target binding.request).2 else m.target } := by
  simp only [unbind, hfind, hbinding, hreleased, if_true]
  cases clearing with
  | false => rfl
  | true => rfl

theorem unbind_fields (m : Registry τ) (released : Anchor → Bool) (clearing : Bool) (id : Nat) :
    let m' := m.unbind released clearing id
    m'.kit = m.kit ∧ m'.settings = m.settings ∧ m'.groups = m.groups ∧ m'.nextId = m.nextId := by
  cases hbound : m.isBoundIn released id with
  | false =>
      rw [unbind_of_not_bound hbound]
      exact ⟨rfl, rfl, rfl, rfl⟩
  | true =>
      obtain ⟨bp, binding, hfind, hbinding, hreleased⟩ := isBoundIn_eq_true_iff.mp hbound
      rw [unbind_of_bound hfind hbinding hreleased]
      exact ⟨rfl, rfl, rfl, rfl⟩

/-- The state after a breakpoint was released. -/
theorem find?_unbind (hbound : m.isBoundIn released id = true) (clearing : Bool) (j : Nat) :
    (m.unbind released clearing id).find? j =
      if j = id then (m.find? j).map fun bp => { bp with binding := none } else m.find? j := by
  obtain ⟨bp, binding, hfind, hbinding, hreleased⟩ := isBoundIn_eq_true_iff.mp hbound
  rw [unbind_of_bound hfind hbinding hreleased, find?_of_insert (m := m) rfl]
  split
  next heq => rw [heq, hfind, Option.map_some]
  next => rfl

/-- A breakpoint that is released frees its request. -/
theorem unbind_frees (hbound : m.isBoundIn released id = true) (clearing : Bool) :
    let m' := m.unbind released clearing id
    (m'.target = if clearing then Target.clearEach m.target (m.requestOf? id).toList
      else m.target) ∧
      m'.requests = (m.requestOf? id).toList.foldl Table.erase m.requests := by
  obtain ⟨bp, binding, hfind, hbinding, hreleased⟩ := isBoundIn_eq_true_iff.mp hbound
  rw [unbind_of_bound hfind hbinding hreleased, requestOf?_of_bound hfind hbinding]
  exact ⟨rfl, rfl⟩

/-- The others of a row are bound as before. -/
theorem filter_isBoundIn_unbind (hbound : m.isBoundIn released id = true) (clearing : Bool)
    {ids : List Nat} (hnew : id ∉ ids) :
    ids.filter ((m.unbind released clearing id).isBoundIn released) =
      ids.filter (m.isBoundIn released) := by
  refine List.filter_congr fun other hother => ?_
  have hne : other ≠ id := ne_of_mem_of_not_mem hother hnew
  rw [isBoundIn, find?_unbind hbound, if_neg hne, isBoundIn]

theorem foldl_unbind_fields (m : Registry τ) (released : Anchor → Bool) (clearing : Bool)
    (ids : List Nat) :
    let m' := ids.foldl (fun m id => m.unbind released clearing id) m
    m'.kit = m.kit ∧ m'.settings = m.settings ∧ m'.groups = m.groups ∧ m'.nextId = m.nextId := by
  induction ids generalizing m with
  | nil => exact ⟨rfl, rfl, rfl, rfl⟩
  | cons id ids ih =>
      obtain ⟨hkit, hsettings, hgroups, hnext⟩ := unbind_fields m released clearing id
      obtain ⟨hkit', hsettings', hgroups', hnext'⟩ := ih (m.unbind released clearing id)
      exact ⟨hkit'.trans hkit, hsettings'.trans hsettings, hgroups'.trans hgroups,
        hnext'.trans hnext⟩

/-- Of a row of breakpoints those that are bound to one of the anchors become unbound. -/
theorem find?_foldl_unbind {ids : List Nat} (hnodup : ids.Nodup) (clearing : Bool) (j : Nat) :
    (ids.foldl (fun m id => m.unbind released clearing id) m).find? j =
      if j ∈ ids.filter (m.isBoundIn released) then
        (m.find? j).map fun bp => { bp with binding := none }
      else m.find? j := by
  induction ids generalizing m with
  | nil => rfl
  | cons id ids ih =>
      obtain ⟨hnew, hrest⟩ := List.nodup_cons.mp hnodup
      rw [List.foldl_cons, ih hrest, List.filter_cons]
      cases hbound : m.isBoundIn released id with
      | false =>
          rw [unbind_of_not_bound hbound]
          rfl
      | true =>
          rw [filter_isBoundIn_unbind hbound clearing hnew, find?_unbind hbound]
          by_cases hj : j = id
          · subst hj
            simp [hnew]
          · simp [hj]

/-- Of a row of breakpoints those that are bound to one of the anchors free the requests that they
were bound to at the beginning. -/
theorem foldl_unbind_frees {ids : List Nat} (hnodup : ids.Nodup) (clearing : Bool) :
    let m' := ids.foldl (fun m id => m.unbind released clearing id) m
    let freed := m.requestsOf (ids.filter (m.isBoundIn released))
    (m'.target = if clearing then Target.clearEach m.target freed else m.target) ∧
      m'.requests = freed.foldl Table.erase m.requests := by
  induction ids generalizing m with
  | nil => exact ⟨(ite_self _).symm, rfl⟩
  | cons id ids ih =>
      obtain ⟨hnew, hrest⟩ := List.nodup_cons.mp hnodup
      obtain ⟨htarget, hrequests⟩ := ih (m := m.unbind released clearing id) hrest
      cases hbound : m.isBoundIn released id with
      | false =>
          rw [unbind_of_not_bound hbound] at htarget hrequests
          rw [List.foldl_cons, unbind_of_not_bound hbound, List.filter_cons, hbound]
          exact ⟨htarget, hrequests⟩
      | true =>
          have hsame : (m.unbind released clearing id).requestsOf
              (ids.filter (m.isBoundIn released)) =
                m.requestsOf (ids.filter (m.isBoundIn released)) := by
            refine requestsOf_congr fun other hother => ?_
            have hne : other ≠ id := ne_of_mem_of_not_mem (List.mem_of_mem_filter hother) hnew
            rw [find?_unbind hbound, if_neg hne]
          obtain ⟨hfirst, hroute⟩ := unbind_frees hbound clearing
          rw [filter_isBoundIn_unbind hbound clearing hnew, hsame, hfirst] at htarget
          rw [filter_isBoundIn_unbind hbound clearing hnew, hsame, hroute] at hrequests
          rw [List.foldl_cons, List.filter_cons, if_pos hbound]
          dsimp only
          rw [htarget, hrequests, requestsOf_cons]
          refine ⟨?_, List.foldl_append.symm⟩
          cases clearing with
          | false => rfl
          | true => exact List.foldl_append.symm

/-- Some breakpoints are unbound and their routes are gone.  Everything else but the target is as it
was. -/
structure Loosened (affected : List Nat) (m m' : Registry τ) : Prop where
  breakpoints : ∀ id, m'.find? id =
    if id ∈ affected then (m.find? id).map fun bp => { bp with binding := none } else m.find? id
  routes : ∀ request,
    m'.requests.find? request = (m.requests.find? request).filter fun id => id ∉ affected
  groups : m'.groups = m.groups
  kit : m'.kit = m.kit
  settings : m'.settings = m.settings
  nextId : m'.nextId = m.nextId

theorem unbindAll_target (m : Registry τ) (released : Anchor → Bool) (clearing : Bool) :
    (m.unbindAll released clearing).target =
      if clearing then Target.clearEach m.target (m.requestsOf (m.boundIn released))
      else m.target :=
  (foldl_unbind_frees m.ids_nodup clearing).1

theorem Routing.unbindAll_loosened {drifts : (τ → τ) → Prop} {start : τ}
    (h : Routing drifts start m) (released : Anchor → Bool) (clearing : Bool) :
    Loosened (m.boundIn released) m (m.unbindAll released clearing) := by
  obtain ⟨hkit, hsettings, hgroups, hnext⟩ := foldl_unbind_fields m released clearing m.ids
  refine ⟨find?_foldl_unbind m.ids_nodup clearing, fun request => ?_, hgroups, hkit, hsettings,
    hnext⟩
  rw [unbindAll, (foldl_unbind_frees m.ids_nodup clearing).2, Table.find?_foldl_erase,
    h.route_filter, boundIn]

/-- When all anchors are released every breakpoint is unbound and no route is left. -/
theorem Routing.unbindAll_eq {drifts : (τ → τ) → Prop} {start : τ} (h : Routing drifts start m) :
    m.unbindAll (fun _ => true) false =
      { m with
        breakpoints := m.breakpoints.map fun bp => { bp with binding := none }
        requests := ∅ } := by
  have hloosened := h.unbindAll_loosened (fun _ => true) false
  have htarget : (m.unbindAll (fun _ => true) false).target = m.target :=
    unbindAll_target m (fun _ => true) false
  have hbreakpoints : (m.unbindAll (fun _ => true) false).breakpoints =
      m.breakpoints.map fun bp => { bp with binding := none } := by
    refine Table.ext_find? fun id => (hloosened.breakpoints id).trans ?_
    rw [Table.find?_map]
    split
    next => rfl
    next hother =>
      change m.find? id = (m.find? id).map _
      cases hfind : m.find? id with
      | none => rfl
      | some bp => rw [Option.map_some, ← unbound_of_not_mem_boundIn hfind hother]
  have hrequests : (m.unbindAll (fun _ => true) false).requests = ∅ := by
    refine Table.ext_find? fun request => (hloosened.routes request).trans ?_
    rw [Table.find?_emptyCollection, Option.filter_eq_none_iff]
    intro id hrouted
    obtain ⟨bp, binding, hfind, hbinding, -⟩ :=
      requestOf?_eq_some_iff.mp ((h.exact request id).mp hrouted)
    simp [mem_boundIn_iff, hfind, hbinding]
  obtain ⟨-, -, hgroups, hkit, hsettings, hnext⟩ := hloosened
  generalize m.unbindAll (fun _ => true) false = m' at *
  obtain ⟨target, kit, settings, groups, breakpoints, requests, nextId⟩ := m'
  cases htarget
  cases hgroups
  cases hkit
  cases hsettings
  cases hnext
  cases hbreakpoints
  cases hrequests
  rfl

end Row

/-- Whatever has happened before, as long as the target gives no request id twice: when a class is
unloaded, exactly the breakpoints whose bindings are in it are unbound, their routes are gone, and
their requests are cleared, one after another.  When the target has died, every breakpoint is
unbound, no route is left and the target is left alone.  Neither has failures to list, and
everything else is as it was.  In a connected target the requests of the affected breakpoints are
not armed afterwards, those that were are recorded as cleared, and nothing else has changed. -/
theorem run_unloads {kit : Kit} (hkit : kit.Faithful) (settings : Settings) :
    (∀ {τ : Type} [Target τ] {drifts : (τ → τ) → Prop} {start : τ},
      Target.NeverReissues drifts start → ∀ moves : List (Move τ),
      (∀ change, .outside change ∈ moves → drifts change) →
      let m := (create start kit settings).run moves
      (∀ className,
        let affected := m.boundIn fun anchor => anchor.className? = some className
        (∀ id, id ∈ affected ↔ ∃ bp binding, m.find? id = some bp ∧ bp.binding = some binding ∧
          binding.anchor.IsIn className) ∧
        affected.Nodup ∧
        ∃ m', m.onStructuralChange (.classUnload className) = ([], m') ∧
          Loosened affected m m' ∧
          m'.target = Target.clearEach m.target (m.requestsOf affected)) ∧
      m.onStructuralChange .vmDeath =
        ([], { m with
          breakpoints := m.breakpoints.map fun bp => { bp with binding := none }
          requests := ∅ })) ∧
    (∀ (start : ScriptedTarget) (moves : List (Move ScriptedTarget)),
      (∀ change, .outside change ∈ moves → ScriptedTarget.Counts change) →
      let m := (create start kit settings).run moves
      m.target.disconnected = false → ∀ affected : List Nat, affected.Nodup →
        let target := Target.clearEach m.target (m.requestsOf affected)
        (∀ request, target.requests.find? request =
          if request ∈ m.requestsOf affected then none else m.target.requests.find? request) ∧
        target.cleared =
          m.target.cleared ++ (m.requestsOf affected).filter m.target.requests.contains ∧
        target.bare = m.target.bare) := by
  refine ⟨?_, ?_⟩
  · intro τ _ drifts start hfresh moves hmoves m
    have hrouting : Routing drifts start m :=
      (Routing.create start kit settings).leads hfresh (create_orderly start kit settings)
        (create_leads start hkit settings hmoves)
    refine ⟨fun className => ?_, ?_⟩
    · refine ⟨fun id => ?_, m.boundIn_nodup _, _, rfl, hrouting.unbindAll_loosened _ true,
        unbindAll_target m _ true⟩
      simp only [mem_boundIn_iff, decide_eq_true_eq, Anchor.className?_eq_some_iff]
    · rw [onStructuralChange, hrouting.unbindAll_eq]
  · intro start moves hmoves m hconnected affected hnodup
    have hlinked : Linked start m :=
      (Linked.create start kit settings).leads (create_leads start hkit settings hmoves)
    exact ⟨ScriptedTarget.find?_clearEach hconnected _,
      ScriptedTarget.cleared_clearEach hconnected (hlinked.routing.requestsOf_nodup hnodup),
      ScriptedTarget.bare_clearEach _ _⟩

/-- Breakpoints at a line, a method and a field of a class and the one that catches it are unbound
when it is unloaded, and their requests are cleared; the one for all uncaught exceptions and those
in another class stay as they are.  All are unbound when the target has died, and no request is
cleared. -/
theorem run_unloads_mixed :
    let start := ([⟨"A", "A.java", [.line 7 0, .method "f" [], .field "x"]⟩,
      ⟨"B", "B.java", [.method "g" []]⟩] : List ClassFile).foldl (fun t c => (t.define c).2)
        ScriptedTarget.initial
    let specs : List Spec := [.line ⟨⟨"A.java"⟩, none, "*", "A.java", 7⟩, .uncaughtException,
      .method ⟨"A", "f", .any⟩, .fieldWatch "A" "x" true false, .method ⟨"B", "g", .any⟩,
      .exceptionCatch "A" true false]
    let m := (create start .standard .standard).run
      (specs.map fun spec => .createSpec spec GroupTree.root)
    (∃ m', m.onStructuralChange (.classUnload "A") = ([], m') ∧ Loosened [1, 3, 4, 6] m m' ∧
      m'.target.cleared = [1, 3, 4, 6]) ∧
    (m.onStructuralChange .vmDeath).2.requests = ∅ ∧
      (m.onStructuralChange .vmDeath).2.target = m.target := by
  intro start specs m
  have hmoves : ∀ change, Move.outside change ∈
      (specs.map fun spec => .createSpec spec GroupTree.root) →
        ScriptedTarget.Counts change := by simp
  obtain ⟨hreleases, hclears⟩ := run_unloads Kit.standard_faithful .standard
  obtain ⟨hunload, hdeath⟩ :=
    hreleases (ScriptedTarget.neverReissues_of_counts (fun _ h => h) start) _ hmoves
  have haffected : m.boundIn (fun anchor => anchor.className? = some "A") = [1, 3, 4, 6] := by
    decide +kernel
  have hrequests : m.requestsOf [1, 3, 4, 6] = [1, 3, 4, 6] := by decide +kernel
  obtain ⟨-, -, m', hanswer, hloosened, htarget⟩ := hunload "A"
  rw [haffected, hrequests] at htarget
  rw [haffected] at hloosened
  obtain ⟨-, hcleared, -⟩ :=
    hclears start _ hmoves (by decide +kernel) [1, 3, 4, 6] (by decide)
  refine ⟨⟨m', hanswer, hloosened, ?_⟩, ?_, ?_⟩
  · rw [htarget, ← hrequests, hcleared]
    decide +kernel
  · rw [hdeath]
  · rw [hdeath]

end Registry

end Breakpoints
