import Breakpoints.Proofs.Target.Scripted
import Breakpoints.Target.Resolution

/-!
Classes that a scripted target loads one after another.  A class comes whole, and behind those that
are there, so what a specification was once found to mean stays its meaning.
-/

namespace Breakpoints

/-- Something that a class has. -/
inductive Member where
  | line (line index : Nat)
  | method (name : String) (parameterTypes : List String)
  | field (name : String)

/-- A class to be loaded, with all that it has in the order in which the target learns of it. -/
structure ClassFile where
  name : String
  sourcePath : String
  members : List Member

namespace ScriptedTarget

def addMember (t : ScriptedTarget) (owner : ClassHandle) : Member → ScriptedTarget
  | .line line index => t.addLine owner line index
  | .method name parameterTypes => (t.addMethod owner name parameterTypes).2
  | .field name => (t.addField owner name).2

/-- Loads a class with all that it has. -/
def define (t : ScriptedTarget) (file : ClassFile) : ClassHandle × ScriptedTarget :=
  let (owner, loaded) := t.load file.name file.sourcePath
  (owner, file.members.foldl (fun t member => t.addMember owner member) loaded)

/-- Loads classes one after another. -/
def defineAll (t : ScriptedTarget) (files : List ClassFile) : ScriptedTarget :=
  files.foldl (fun t file => (t.define file).2) t

/-- The ids of the loaded classes have been given out. -/
def Numbered (t : ScriptedTarget) : Prop :=
  ∀ c ∈ t.classes, c.handle.typeId ≤ 0x100 + t.loaded

/-- Further classes may have been loaded behind those that were there, and nothing else happened. -/
structure Extends (before after : ScriptedTarget) : Prop where
  classes : ∃ more, after.classes = before.classes ++ more
  requests : after.requests = before.requests
  created : after.created = before.created
  disconnected : after.disconnected = before.disconnected

/-- Two targets have loaded the same, whatever requests are armed in them. -/
structure SameCode (t t' : ScriptedTarget) : Prop where
  classes : t.classes = t'.classes
  loaded : t.loaded = t'.loaded
  members : t.members = t'.members

section Define

theorem updateFirst_append {handle : ClassHandle} {f : LoadedClass → LoadedClass}
    {old : List LoadedClass} (hold : ∀ c ∈ old, c.handle ≠ handle) {c : LoadedClass}
    (hc : c.handle = handle) : updateFirst handle f (old ++ [c]) = old ++ [f c] := by
  induction old with
  | nil => simp [updateFirst, hc]
  | cons first old ih =>
      rw [List.forall_mem_cons] at hold
      rw [List.cons_append, updateFirst, if_neg hold.1, ih hold.2, List.cons_append]

/-- What a class gets while it is the last one. -/
theorem addMember_last {t : ScriptedTarget} {owner : ClassHandle} {old : List LoadedClass}
    {c : LoadedClass} (hclasses : t.classes = old ++ [c]) (hold : ∀ c ∈ old, c.handle ≠ owner)
    (hc : c.handle = owner) (member : Member) :
    ∃ grown members, t.addMember owner member = { t with members, classes := old ++ [grown] } ∧
      grown.handle = owner := by
  have hlast : ∀ f : LoadedClass → LoadedClass,
      updateFirst owner f t.classes = old ++ [f c] := by
    intro f
    rw [hclasses]
    exact updateFirst_append hold hc
  cases member with
  | line line index =>
      refine ⟨{ c with lines := c.lines.insert line index }, t.members, ?_, hc⟩
      simp only [addMember, addLine, updateClass, hlast]
  | method name parameterTypes =>
      refine ⟨{ c with methods := c.methods ++ [(t.addMethod owner name parameterTypes).1] },
        t.members + 1, ?_, hc⟩
      simp only [addMember, addMethod, updateClass, hlast]
  | field name =>
      refine ⟨{ c with fields := c.fields ++ [(t.addField owner name).1] }, t.members + 1, ?_, hc⟩
      simp only [addMember, addField, updateClass, hlast]

theorem addMembers_last {t : ScriptedTarget} {owner : ClassHandle} {old : List LoadedClass}
    {c : LoadedClass} (hclasses : t.classes = old ++ [c]) (hold : ∀ c ∈ old, c.handle ≠ owner)
    (hc : c.handle = owner) (file : List Member) :
    ∃ grown members, file.foldl (fun t member => t.addMember owner member) t =
      { t with members, classes := old ++ [grown] } ∧ grown.handle = owner := by
  induction file generalizing t c with
  | nil => exact ⟨c, t.members, by rw [← hclasses]; rfl, hc⟩
  | cons member file ih =>
      obtain ⟨grown, members, hgrown, howner⟩ := addMember_last hclasses hold hc member
      obtain ⟨last, count, hlast, hhandle⟩ :=
        ih (t := { t with members, classes := old ++ [grown] }) rfl howner
      exact ⟨last, count, by rw [List.foldl_cons, hgrown, hlast], hhandle⟩

/-- A class comes as the last one, under an id of its own. -/
theorem define_extends {t : ScriptedTarget} (ht : t.Numbered) (file : ClassFile) :
    t.Extends (t.define file).2 ∧ (t.define file).2.Numbered := by
  have hold : ∀ c ∈ t.classes, c.handle ≠ ⟨0x100 + (t.loaded + 1), file.name⟩ := by
    intro c hc heq
    have hle := ht c hc
    rw [heq] at hle
    simp only at hle
    omega
  obtain ⟨grown, members, hgrown, howner⟩ :=
    addMembers_last (t := (t.load file.name file.sourcePath).2) rfl hold rfl file.members
  have hafter : (t.define file).2 =
      { t with loaded := t.loaded + 1, members, classes := t.classes ++ [grown] } := hgrown
  rw [hafter]
  refine ⟨⟨⟨[grown], rfl⟩, rfl, rfl, rfl⟩, ?_⟩
  intro c hc
  rw [List.mem_append, List.mem_singleton] at hc
  rcases hc with hbefore | rfl
  · have hle := ht c hbefore
    exact Nat.le_succ_of_le hle
  · exact Nat.le_of_eq (congrArg ClassHandle.typeId howner)

end Define

section SameCode

theorem SameCode.trans {t t' t'' : ScriptedTarget} (h : SameCode t t') (h' : SameCode t' t'') :
    SameCode t t'' :=
  ⟨h.classes.trans h'.classes, h.loaded.trans h'.loaded, h.members.trans h'.members⟩

theorem SameCode.numbered {t t' : ScriptedTarget} (h : SameCode t t') (ht : t.Numbered) :
    t'.Numbered := by
  intro c hc
  rw [← h.loaded]
  exact ht c (h.classes ▸ hc)

theorem SameCode.addMember {t t' : ScriptedTarget} (h : SameCode t t') (owner : ClassHandle)
    (member : Member) : SameCode (t.addMember owner member) (t'.addMember owner member) := by
  obtain ⟨hclasses, hloaded, hmembers⟩ := h
  cases member with
  | line line index =>
      constructor <;> simp [ScriptedTarget.addMember, addLine, updateClass, *]
  | method name parameterTypes =>
      constructor <;> simp [ScriptedTarget.addMember, addMethod, updateClass, *]
  | field name =>
      constructor <;> simp [ScriptedTarget.addMember, addField, updateClass, *]

/-- What is loaded next does not depend on the requests. -/
theorem SameCode.define {t t' : ScriptedTarget} (h : SameCode t t') (file : ClassFile) :
    SameCode (t.define file).2 (t'.define file).2 := by
  have howner : (t.load file.name file.sourcePath).1 = (t'.load file.name file.sourcePath).1 := by
    simp [load, h.loaded]
  have hloaded : SameCode (t.load file.name file.sourcePath).2
      (t'.load file.name file.sourcePath).2 := by
    constructor <;> simp [load, h.classes, h.loaded, h.members]
  simp only [ScriptedTarget.define]
  rw [howner]
  revert hloaded
  generalize (t.load file.name file.sourcePath).2 = u
  generalize (t'.load file.name file.sourcePath).2 = u'
  intro hloaded
  induction file.members generalizing u u' with
  | nil => exact hloaded
  | cons member members ih => exact ih _ _ (hloaded.addMember _ member)

end SameCode

section Resolve

variable {before after : ScriptedTarget}

/-- Only the loaded classes tell what a specification means. -/
theorem resolve_congr (h : before.classes = after.classes) (spec : Spec) :
    spec.resolve before = spec.resolve after := by
  cases spec with
  | line spec =>
      simp only [Spec.resolve, LineSpec.resolve, Target.classesFrom, Target.codeAt?, codeAt?,
        classOf?, h]
  | method spec =>
      simp only [Spec.resolve, MethodSpec.resolve, Target.classNamed?, Target.methods, classOf?, h]
  | fieldWatch className fieldName onAccess onModify =>
      simp only [Spec.resolve, Target.classNamed?, Target.field?, classOf?, h]
  | exceptionCatch className caught uncaught => simp only [Spec.resolve, Target.classNamed?, h]
  | _ => rfl

theorem Extends.classOf? (h : before.Extends after) {c : LoadedClass} (hc : c ∈ before.classes) :
    after.classOf? c.handle = before.classOf? c.handle := by
  obtain ⟨more, hmore⟩ := h.classes
  have hfound : (before.classOf? c.handle).isSome := by
    simp only [ScriptedTarget.classOf?, List.find?_isSome, decide_eq_true_eq]
    exact ⟨c, hc, rfl⟩
  rw [ScriptedTarget.classOf?, hmore, List.find?_append]
  exact Option.or_of_isSome hfound

/-- A class that is found by its name stays the one that is found. -/
theorem Extends.classNamed? (h : before.Extends after) {name : String} {owner : ClassHandle}
    (hfound : Target.classNamed? before name = some owner) :
    Target.classNamed? after name = some owner ∧
      after.classOf? owner = before.classOf? owner := by
  obtain ⟨more, hmore⟩ := h.classes
  simp only [Target.classNamed?] at hfound ⊢
  obtain ⟨c, hc, rfl⟩ := Option.map_eq_some_iff.mp hfound
  refine ⟨?_, h.classOf? (List.mem_of_find?_eq_some hc)⟩
  rw [hmore, List.find?_append, hc, Option.some_or, Option.map_some]

/-- The first class with code at a line stays the first. -/
theorem Extends.line_resolve (h : before.Extends after) {spec : LineSpec} {anchor : Anchor}
    (hfound : spec.resolve before = some anchor) : spec.resolve after = some anchor := by
  obtain ⟨more, hmore⟩ := h.classes
  have hlater : ∃ others, Target.classesFrom after spec.sourceName =
      Target.classesFrom before spec.sourceName ++ others := by
    simp only [Target.classesFrom, hmore, List.filter_append, List.map_append]
    exact ⟨_, rfl⟩
  have hcode : ∀ entry ∈ Target.classesFrom before spec.sourceName,
      Target.codeAt? after entry.1 spec.line = Target.codeAt? before entry.1 spec.line := by
    intro entry hentry
    simp only [Target.classesFrom, List.mem_map] at hentry
    obtain ⟨c, hc, rfl⟩ := hentry
    simp only [Target.codeAt?, codeAt?, h.classOf? (List.mem_of_mem_filter hc)]
  obtain ⟨others, hothers⟩ := hlater
  rw [LineSpec.resolve, List.findSome?_eq_some_iff] at hfound ⊢
  obtain ⟨front, ⟨owner, source⟩, rest, hsplit, hentry, hfront⟩ := hfound
  rw [hsplit] at hcode
  refine ⟨front, (owner, source), rest ++ others, by rw [hothers, hsplit]; simp, ?_, ?_⟩
  · dsimp only
    rw [hcode (owner, source) (by simp)]
    exact hentry
  · rintro ⟨earlier, path⟩ hearlier
    dsimp only
    rw [hcode (earlier, path) (by simp [hearlier])]
    exact hfront (earlier, path) hearlier

/-- What a specification was found to mean stays its meaning, and so does an ambiguity. -/
theorem Extends.resolve (h : before.Extends after) {spec : Spec}
    (hfound : spec.resolve before ≠ .ok none) : spec.resolve after = spec.resolve before := by
  cases spec with
  | line spec =>
      cases hline : spec.resolve before with
      | none => simp [Spec.resolve, hline] at hfound
      | some anchor => rw [Spec.resolve, Spec.resolve, h.line_resolve hline, hline]
  | method spec =>
      cases howner : Target.classNamed? before spec.className with
      | none => simp [Spec.resolve, MethodSpec.resolve, howner] at hfound
      | some owner =>
          obtain ⟨hstill, hsame⟩ := h.classNamed? howner
          simp only [Spec.resolve, MethodSpec.resolve, howner, hstill, Target.methods, hsame]
  | fieldWatch className fieldName onAccess onModify =>
      cases howner : Target.classNamed? before className with
      | none => simp [Spec.resolve, howner] at hfound
      | some owner =>
          obtain ⟨hstill, hsame⟩ := h.classNamed? howner
          simp only [Spec.resolve, howner, hstill, Target.field?, Option.bind_some, hsame]
  | exceptionCatch className caught uncaught =>
      cases howner : Target.classNamed? before className with
      | none => simp [Spec.resolve, howner] at hfound
      | some owner =>
          obtain ⟨hstill, -⟩ := h.classNamed? howner
          simp only [Spec.resolve, howner, hstill]
  | _ => rfl

end Resolve

end ScriptedTarget

end Breakpoints
