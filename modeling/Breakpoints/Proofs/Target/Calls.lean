import Breakpoints.Proofs.Target.Loading

/-!
Everything a scripted target can be told, call by call.  Whatever it is told, its classes stand in
the order in which they were loaded, and no two of them have the same handle.
-/

namespace Breakpoints.ScriptedTarget

/-- What a scripted target can be told or asked for. -/
inductive Call where
  | load (name sourcePath : String)
  | unload (name : String)
  | addMember (owner : ClassHandle) (member : Member)
  | setCurrent (current : Option CurrentLocation)
  | setGroups (groups : List ThreadGroup)
  | disconnect
  | arm (spec : RequestSpec)
  | setArmed (request : Int) (enabled : Bool)
  | clear (request : Int)

/-- The target after a call. -/
def call (t : ScriptedTarget) : Call → ScriptedTarget
  | .load name sourcePath => (t.load name sourcePath).2
  | .unload name => (t.unload name).2
  | .addMember owner member => t.addMember owner member
  | .setCurrent current => t.setCurrent current
  | .setGroups groups => t.setGroups groups
  | .disconnect => t.disconnect
  | .arm spec => (t.arm spec).2
  | .setArmed request enabled => (t.setArmed request enabled).2
  | .clear request => (t.clear request).2

/-- A new target after some calls. -/
def ofCalls (calls : List Call) : ScriptedTarget :=
  calls.foldl call initial

/-- The handles of the loaded classes. -/
def handles (t : ScriptedTarget) : List ClassHandle :=
  t.classes.map (·.handle)

/-- The classes stand in the order of their ids, which count up as classes are loaded. -/
structure Ordered (t : ScriptedTarget) : Prop where
  ascending : t.handles.Pairwise fun earlier later => earlier.typeId < later.typeId
  numbered : t.Numbered

section Handles

theorem numbered_iff {t : ScriptedTarget} :
    t.Numbered ↔ ∀ handle ∈ t.handles, handle.typeId ≤ 0x100 + t.loaded := by
  rw [handles, List.forall_mem_map]
  rfl

theorem handles_updateClass (t : ScriptedTarget) (owner : ClassHandle)
    {f : LoadedClass → LoadedClass} (hf : ∀ c, (f c).handle = c.handle) :
    (t.updateClass owner f).handles = t.handles := by
  rw [handles, handles, updateClass]
  induction t.classes with
  | nil => rfl
  | cons c rest ih =>
      dsimp only at ih ⊢
      rw [updateFirst]
      split
      next => rw [List.map_cons, List.map_cons, hf]
      next => rw [List.map_cons, List.map_cons, ih]

theorem handles_addMember (t : ScriptedTarget) (owner : ClassHandle) (member : Member) :
    (t.addMember owner member).handles = t.handles ∧
      (t.addMember owner member).loaded = t.loaded := by
  cases member with
  | line line index => exact ⟨handles_updateClass t owner fun _ => by rfl, rfl⟩
  | method name parameterTypes =>
      exact ⟨handles_updateClass { t with members := t.members + 1 } owner fun _ => by rfl, rfl⟩
  | field name =>
      exact ⟨handles_updateClass { t with members := t.members + 1 } owner fun _ => by rfl, rfl⟩

theorem handles_unload (t : ScriptedTarget) (name : String) :
    (t.unload name).2.handles.Sublist t.handles ∧ (t.unload name).2.loaded = t.loaded := by
  rw [unload]
  split
  next => exact ⟨List.Sublist.refl _, rfl⟩
  next => exact ⟨List.eraseP_sublist.map _, rfl⟩

end Handles

namespace Ordered

variable {t t' : ScriptedTarget}

theorem initial : ScriptedTarget.initial.Ordered :=
  ⟨.nil, by simp [Numbered, ScriptedTarget.initial]⟩

/-- Classes may go. -/
theorem of_sublist (h : t.Ordered) (hsub : t'.handles.Sublist t.handles)
    (hloaded : t'.loaded = t.loaded) : t'.Ordered where
  ascending := h.ascending.sublist hsub
  numbered := by
    rw [numbered_iff, hloaded]
    exact fun handle hhandle => numbered_iff.mp h.numbered handle (hsub.subset hhandle)

theorem of_bare (h : t.Ordered) (hbare : t'.bare = t.bare) : t'.Ordered := by
  have hclasses : t'.classes = t.classes := congrArg (·.classes) hbare
  have hloaded : t'.loaded = t.loaded := congrArg (·.loaded) hbare
  refine h.of_sublist ?_ hloaded
  rw [handles, handles, hclasses]

/-- A class comes as the last one, with the next id. -/
theorem load (h : t.Ordered) (name sourcePath : String) : (t.load name sourcePath).2.Ordered := by
  have hhandles : (t.load name sourcePath).2.handles =
      t.handles ++ [⟨0x100 + (t.loaded + 1), name⟩] := by
    simp [handles, ScriptedTarget.load]
  have hnumbered := numbered_iff.mp h.numbered
  constructor
  · rw [hhandles, List.pairwise_append]
    refine ⟨h.ascending, List.pairwise_singleton _ _, fun handle hhandle last hlast => ?_⟩
    rw [List.mem_singleton.mp hlast]
    exact Nat.lt_succ_of_le (hnumbered handle hhandle)
  · rw [numbered_iff, hhandles, List.forall_mem_append, List.forall_mem_singleton]
    exact ⟨fun handle hhandle => Nat.le_succ_of_le (hnumbered handle hhandle), Nat.le_refl _⟩

theorem call (h : t.Ordered) (call : Call) : (t.call call).Ordered := by
  cases call with
  | load name sourcePath => exact h.load name sourcePath
  | unload name =>
      obtain ⟨hsub, hloaded⟩ := handles_unload t name
      exact h.of_sublist hsub hloaded
  | addMember owner member =>
      obtain ⟨hsame, hloaded⟩ := handles_addMember t owner member
      exact h.of_sublist (hsame ▸ List.Sublist.refl _) hloaded
  | setCurrent current => exact ⟨h.ascending, h.numbered⟩
  | setGroups groups => exact ⟨h.ascending, h.numbered⟩
  | disconnect => exact ⟨h.ascending, h.numbered⟩
  | arm spec =>
      simp only [ScriptedTarget.call, ScriptedTarget.arm]
      split
      · exact h
      · exact ⟨h.ascending, h.numbered⟩
  | setArmed request enabled => exact h.of_bare (bare_setArmed t request enabled)
  | clear request => exact h.of_bare (bare_clear t request)

/-- The order stays over any row of calls. -/
theorem calls (h : t.Ordered) (calls : List Call) :
    (calls.foldl ScriptedTarget.call t).Ordered := by
  induction calls generalizing t with
  | nil => exact h
  | cons first rest ih => exact ih (h.call first)

theorem ofCalls (calls : List Call) : (ScriptedTarget.ofCalls calls).Ordered :=
  initial.calls calls

/-- A class is found by its handle. -/
theorem classOf? (h : t.Ordered) {c : LoadedClass} (hc : c ∈ t.classes) :
    t.classOf? c.handle = some c := by
  obtain ⟨before, after, hsplit⟩ := List.append_of_mem hc
  have hascending := h.ascending
  rw [handles, hsplit, List.map_append, List.pairwise_append] at hascending
  rw [ScriptedTarget.classOf?, List.find?_eq_some_iff_append]
  refine ⟨decide_eq_true rfl, before, after, hsplit, fun earlier hearlier => ?_⟩
  have hlt := hascending.2.2 earlier.handle (List.mem_map_of_mem hearlier) c.handle (by simp)
  have hne : earlier.handle ≠ c.handle := by
    intro heq
    rw [heq] at hlt
    exact Nat.lt_irrefl _ hlt
  simpa using hne

end Ordered

end Breakpoints.ScriptedTarget
