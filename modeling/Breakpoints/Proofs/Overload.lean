import Breakpoints.Target.Resolution
import Mathlib.Data.List.Forall2
import Mathlib.Data.List.Pairwise

/-!
Choosing between the methods of one name by their parameter types.  A type without a dot means also
the types that end in it, so even the exact types of a method can mean another method.
-/

namespace Breakpoints

section Types

variable {written actual : String}

/-- A type that ends in a name without dots, after a dot or a dollar sign. -/
def EndsIn (actual simple : String) : Prop :=
  '.' ∉ simple.toList ∧ ∃ front mark, (mark = '.' ∨ mark = '$') ∧
    actual.toList = front ++ mark :: simple.toList

theorem typeMatches_iff :
    typeMatches written actual = true ↔ written = actual ∨ EndsIn actual written := by
  rw [typeMatches, Bool.or_eq_true, Bool.and_eq_true, decide_eq_true_iff, EndsIn,
    Bool.not_eq_true', ← Bool.not_eq_true, List.contains_iff_mem]
  refine or_congr_right (and_congr_right fun _ => ?_)
  split
  next hnone =>
    refine ⟨fun h => absurd h Bool.false_ne_true, ?_⟩
    rintro ⟨front, mark, -, hactual⟩
    have hends : written.toList.isSuffixOf? actual.toList = some (front ++ [mark]) := by
      rw [List.isSuffixOf?_eq_some_iff_append_eq, hactual, List.append_assoc,
        List.singleton_append]
    rw [hnone] at hends
    contradiction
  next head hends =>
    rw [List.isSuffixOf?_eq_some_iff_append_eq] at hends
    rw [Bool.or_eq_true, decide_eq_true_iff, decide_eq_true_iff, ← hends]
    constructor
    · intro hlast
      have hmark : ∃ mark, (mark = '.' ∨ mark = '$') ∧ head.getLast? = some mark := by
        rcases hlast with hdot | hdollar
        · exact ⟨'.', .inl rfl, hdot⟩
        · exact ⟨'$', .inr rfl, hdollar⟩
      obtain ⟨mark, hmark, hlast⟩ := hmark
      obtain ⟨front, rfl⟩ := List.getLast?_eq_some_iff.mp hlast
      exact ⟨front, mark, hmark, by rw [List.append_assoc, List.singleton_append]⟩
    · rintro ⟨front, mark, hmark, hactual⟩
      rw [← List.singleton_append, ← List.append_assoc, List.append_cancel_right_eq] at hactual
      rw [hactual, List.getLast?_concat, Option.some.injEq, Option.some.injEq]
      exact hmark

theorem typesMatch_iff {types actuals : List String} : typesMatch types actuals = true ↔
    List.Forall₂ (fun written actual => written = actual ∨ EndsIn actual written)
      types actuals := by
  induction types generalizing actuals with
  | nil =>
      cases actuals with
      | nil => simp [typesMatch]
      | cons actual actuals => simp [typesMatch]
  | cons written types ih =>
      cases actuals with
      | nil => simp [typesMatch]
      | cons actual actuals =>
          rw [typesMatch, Bool.and_eq_true, typeMatches_iff, ih, List.forall₂_cons]

theorem typesMatch_self (types : List String) : typesMatch types types = true := by
  rw [typesMatch_iff, List.forall₂_same]
  exact fun _ _ => .inl rfl

/-- Types in full mean themselves only. -/
theorem eq_of_typesMatch {types actuals : List String} (hmatch : typesMatch types actuals = true)
    (hfull : ∀ written ∈ types, '.' ∈ written.toList) : types = actuals := by
  rw [typesMatch_iff] at hmatch
  induction hmatch with
  | nil => rfl
  | cons hfirst _ ih =>
      rw [List.forall_mem_cons] at hfull
      rcases hfirst with rfl | hends
      · rw [ih hfull.2]
      · exact absurd hfull.1 hends.1

end Types

section Own

variable {methods : List MethodInfo} {m : MethodInfo}

/-- Methods of one name differ in their parameter types. -/
def Overloads (methods : List MethodInfo) : Prop :=
  methods.Pairwise fun a b => a.name = b.name → a.parameterTypes ≠ b.parameterTypes

instance : Decidable (Overloads methods) :=
  inferInstanceAs (Decidable (methods.Pairwise _))

theorem Overloads.eq_of_types {a b : MethodInfo} (hdistinct : Overloads methods)
    (ha : a ∈ methods) (hb : b ∈ methods) (hname : a.name = b.name)
    (htypes : a.parameterTypes = b.parameterTypes) : a = b := by
  have hsymm : Std.Symm fun a b : MethodInfo =>
      a.name = b.name → a.parameterTypes ≠ b.parameterTypes :=
    ⟨fun _ _ happart hback => (happart hback.symm).symm⟩
  by_contra hne
  exact hdistinct.forall ha hb hne hname htypes

/-- The methods that the parameter types of a method mean besides the method itself. -/
def rivals (methods : List MethodInfo) (m : MethodInfo) : List MethodInfo :=
  methods.filter fun other =>
    other ≠ m && (other.name = m.name && typesMatch m.parameterTypes other.parameterTypes)

theorem mem_rivals_iff {other : MethodInfo} : other ∈ rivals methods m ↔
    other ∈ methods ∧ other ≠ m ∧ other.name = m.name ∧
      List.Forall₂ (fun written actual => written = actual ∨ EndsIn actual written)
        m.parameterTypes other.parameterTypes := by
  simp only [rivals, List.mem_filter, Bool.and_eq_true, decide_eq_true_iff, typesMatch_iff]

theorem rivals_of_not_mem (h : m ∉ methods) : rivals methods m =
    methods.filter fun other =>
      other.name = m.name && typesMatch m.parameterTypes other.parameterTypes := by
  refine List.filter_congr fun other hother => ?_
  have hne : other ≠ m := by
    rintro rfl
    exact h hother
  rw [decide_eq_true hne, Bool.true_and]

/-- The method itself stands among its rivals. -/
theorem exists_candidates (hdistinct : Overloads methods) (hm : m ∈ methods) :
    ∃ before after, rivals methods m = before ++ after ∧
      (methods.filter fun other =>
        other.name = m.name && (ParameterFilter.exact m.parameterTypes).accepts
          other.parameterTypes) = before ++ m :: after := by
  obtain ⟨before, after, rfl⟩ := List.append_of_mem hm
  obtain ⟨-, hcons, hacross⟩ := List.pairwise_append.mp hdistinct
  have hbefore : m ∉ before := fun hmem => hacross m hmem m List.mem_cons_self rfl rfl
  have hafter : m ∉ after := fun hmem => (List.pairwise_cons.mp hcons).1 m hmem rfl rfl
  refine ⟨rivals before m, rivals after m, ?_, ?_⟩
  · simp [rivals, List.filter_append]
  · rw [rivals_of_not_mem hbefore, rivals_of_not_mem hafter, List.filter_append,
      List.filter_cons_of_pos]
    · rfl
    · simp [ParameterFilter.accepts, typesMatch_self]

/-- One method is found, several are too many. -/
theorem selectOverload_of_candidates {name : String} {filter : ParameterFilter}
    {before after : List MethodInfo}
    (h : (methods.filter fun other => other.name = name && filter.accepts other.parameterTypes) =
      before ++ m :: after) :
    (before ++ after = [] → selectOverload methods name filter = .ok (some m)) ∧
      (before ++ after ≠ [] →
        selectOverload methods name filter = .error (1 + (before ++ after).length)) := by
  rw [selectOverload, h]
  constructor
  · intro hnone
    rw [List.append_eq_nil_iff] at hnone
    rw [hnone.1, hnone.2]
    rfl
  · intro hsome
    have hlength : (before ++ m :: after).length = 1 + (before ++ after).length := by
      simp only [List.length_append, List.length_cons]
      omega
    rw [← hlength]
    split
    next hnil => simp at hnil
    next single hsingle =>
      have hpositive := List.length_pos_iff.mpr hsome
      rw [hsingle, List.length_singleton] at hlength
      omega
    next => rfl

/-- The exact parameter types of a method find the method if they mean no other method of its name.
Else the search is ambiguous between the method and its rivals; it never finds another method, or
none.  A type of a rival is the same as that of the method, or ends in it where it has no dot.  So
there is no rival when all types have dots. -/
theorem selectOverload_own (hdistinct : Overloads methods) (hm : m ∈ methods) :
    let result := selectOverload methods m.name (.exact m.parameterTypes)
    (rivals methods m = [] → result = .ok (some m)) ∧
      (rivals methods m ≠ [] → result = .error (1 + (rivals methods m).length)) ∧
      (∀ other, other ∈ rivals methods m ↔
        other ∈ methods ∧ other ≠ m ∧ other.name = m.name ∧
          List.Forall₂ (fun written actual => written = actual ∨ EndsIn actual written)
            m.parameterTypes other.parameterTypes) ∧
      ((∀ written ∈ m.parameterTypes, '.' ∈ written.toList) → rivals methods m = []) := by
  intro result
  obtain ⟨before, after, hrivals, hcandidates⟩ := exists_candidates hdistinct hm
  obtain ⟨hsingle, hseveral⟩ := selectOverload_of_candidates hcandidates
  rw [← hrivals] at hsingle hseveral
  refine ⟨hsingle, hseveral, fun other => mem_rivals_iff, fun hfull => ?_⟩
  rw [List.eq_nil_iff_forall_not_mem]
  intro other hother
  obtain ⟨hmem, hne, hname, hmatch⟩ := mem_rivals_iff.mp hother
  have htypes := eq_of_typesMatch (typesMatch_iff.mpr hmatch) hfull
  exact hne (hdistinct.eq_of_types hmem hm hname htypes.symm)

/-- A type with a dot finds its method where the type without it is ambiguous; the type `int` in the
other place makes no rival. -/
theorem selectOverload_own_full :
    let location : Location := ⟨1, 1, 1, 0⟩
    let full : MethodInfo := ⟨1, "put", ["a.Key", "int"], location⟩
    let simple : MethodInfo := ⟨2, "put", ["Key", "int"], location⟩
    selectOverload [full, simple] "put" (.exact ["a.Key", "int"]) = .ok (some full) ∧
      selectOverload [full, simple] "put" (.exact ["Key", "int"]) = .error 2 := by
  intro location full simple
  have hdistinct : Overloads [full, simple] := by decide
  obtain ⟨hfound, -⟩ := selectOverload_own (m := full) hdistinct List.mem_cons_self
  obtain ⟨-, hambiguous, -⟩ :=
    selectOverload_own (m := simple) hdistinct (List.mem_cons_of_mem _ List.mem_cons_self)
  exact ⟨hfound (by decide), hambiguous (by decide)⟩

/-- Types without dots can mean another method too. -/
theorem selectOverload_own_ambiguous :
    ¬ ∀ (methods : List MethodInfo) (m : MethodInfo), Overloads methods → m ∈ methods →
      selectOverload methods m.name (.exact m.parameterTypes) = .ok (some m) := by
  intro h
  let location : Location := ⟨1, 257, 1, 0⟩
  let simple : MethodInfo := ⟨1, "f", ["String"], location⟩
  let full : MethodInfo := ⟨2, "f", ["java.lang.String"], location⟩
  have hdistinct : Overloads [simple, full] := by decide
  have hfound := h [simple, full] simple hdistinct List.mem_cons_self
  have hambiguous : selectOverload [simple, full] "f" (.exact ["String"]) = .error 2 := by decide
  rw [hambiguous] at hfound
  contradiction

end Own

end Breakpoints
