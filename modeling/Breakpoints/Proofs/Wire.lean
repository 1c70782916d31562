import Breakpoints.Proofs.Attempt
import Breakpoints.Proofs.SourceKey
import Breakpoints.Proofs.Table
import Breakpoints.Wire.Record

/-!
What is read back of a line or a record that was saved: everything, except that a key is made anew
from its path.
-/

namespace Breakpoints

open Text (maxWord)

namespace Json

theorem nat?_nat {bound n : Nat} (h : n ≤ bound) : nat? bound (nat n) = some n :=
  if_pos h

theorem option?_str (s : Option String) : (opt .str s).option? str? = some s := by
  cases s with
  | none => rfl
  | some s => rfl

theorem list?_strings (l : List String) : list? str? (strings l) = some l := by
  rw [strings, list?]
  induction l with
  | nil => rfl
  | cons s l ih => simp [str?, ih]

namespace Fields

variable {α : Type} {f : Fields} {name : String} {j : Json}

theorem required_eq (h : f name = some j) (decode : Json → Option α) :
    f.required name decode = decode j := by
  rw [required, h, Option.bind_some]

theorem orElse_eq (h : f name = some j) (decode : Json → Option α) (default : α) :
    f.orElse name decode default = decode j := by
  rw [orElse, h]

/-- An absent text is a member that is left out. -/
theorem optional_str {s : Option String} (h : f name = s.map .str) :
    f.optional name str? = some s := by
  rw [optional, h]
  cases s with
  | none => rfl
  | some s => rfl

end Fields

end Json

theorem SuspendPolicy.ofJson?_toJson (policy : SuspendPolicy) :
    ofJson? policy.toJson = some policy := by
  cases policy with
  | nothing => decide
  | eventThread => decide
  | all => decide

theorem LineSpec.ofJson?_members {spec : LineSpec} (hline : spec.line ≤ maxWord)
    (tag : Json) :
    LineSpec.ofJson? (.obj (("kind", tag) :: spec.members)) =
      (SourceKey.ofText spec.key.url).toOption.map fun key => { spec with key } := by
  simp [LineSpec.ofJson?, members, Json.fields?, Json.fieldsFrom?, Json.Fields.required,
    Json.Fields.optional, Json.member?, SourceKey.ofJson?, SourceKey.toJson, Json.str?,
    Json.option?_str, Json.nat?_nat hline]
  cases SourceKey.ofText spec.key.url with
  | error e => rfl
  | ok key => rfl

theorem Spec.ofJson?_line {spec : LineSpec} (hline : spec.line ≤ maxWord) :
    Spec.ofJson? (Spec.line spec).toJson =
      (SourceKey.ofText spec.key.url).toOption.map fun key => .line { spec with key } := by
  have htag : (Spec.line spec).toJson.tagged? "kind" =
      some (Kind.line.name, (Spec.line spec).toJson) := by
    simp [toJson, members, LineSpec.members, Json.tagged?, Json.member?, Kind.toJson, Json.str?,
      kind]
  have hcontent : LineSpec.ofJson? (Spec.line spec).toJson = _ :=
    LineSpec.ofJson?_members hline (Kind.line).toJson
  simp only [Spec.ofJson?, htag, Option.bind_eq_bind, Option.bind_some, Kind.ofName?_name,
    ofContent?, hcontent, Option.map_map]
  rfl

namespace Record

/-- The members of a saved record.  Those of what is absent or empty are left out. -/
theorem exists_fields (record : Record) : ∃ f : Json.Fields,
    record.toJson.fieldsFrom? 9 fieldNames = some f ∧
      f "spec" = some record.spec.toJson ∧ f "enabled" = some (.bool record.enabled) ∧
      f "skip_count" = some (.nat record.skipCount) ∧
      f "expire_count" = some (.nat record.expireCount) ∧
      f "delete_on_expire" = some (.bool record.deleteOnExpire) ∧
      f "suspend_policy" = some record.policy.toJson ∧
      f "class_filters" = record.classFilters.map .str ∧
      f "thread_filters" = record.threadFilters.map .str ∧
      f "group_path" = some (.str record.groupPath) ∧
      f "conditions" = some (.strings record.conditions) ∧
      f "monitors" = some (.strings record.monitors) ∧
      f "properties" = if record.properties.entries.isEmpty then none
        else some (.obj record.properties.entries) := by
  refine ⟨_, rfl, ?_⟩
  cases record.classFilters <;> cases record.threadFilters <;>
    cases record.properties.entries <;> simp [Json.member?]

/-- The entries of a table make the same table. -/
theorem properties?_entries (properties : Table String Json) :
    properties? (.obj properties.entries) = some properties :=
  congrArg some properties.foldl_insert_entries

/-- A record is read back in everything but its specification, whatever it leaves out. -/
theorem ofJson?_toJson (record : Record) (hskip : record.skipCount ≤ maxWord)
    (hexpire : record.expireCount ≤ maxWord) :
    ofJson? record.toJson =
      (Spec.ofJson? record.spec.toJson).map fun spec => { record with spec } := by
  obtain ⟨f, hfields, hspec, henabled, hskipCount, hexpireCount, hdelete, hpolicy, hclass, hthread,
    hgroup, hconditions, hmonitors, hproperties⟩ := record.exists_fields
  have hread : f.orElse "properties" properties? ∅ = some record.properties := by
    rw [Json.Fields.orElse, hproperties]
    cases hempty : record.properties.entries.isEmpty with
    | true =>
        have hnone : record.properties = ∅ := by
          apply Table.ext_find?
          intro name
          rw [Table.find?, List.isEmpty_iff.mp hempty]
          rfl
        rw [hnone]
        rfl
    | false => exact properties?_entries record.properties
  simp only [ofJson?, hfields, Option.bind_eq_bind, Option.bind_some,
    Json.Fields.required_eq hspec, Json.Fields.required_eq henabled, Json.Fields.required_eq hgroup,
    Json.Fields.orElse_eq hskipCount, Json.Fields.orElse_eq hexpireCount,
    Json.Fields.orElse_eq hdelete, Json.Fields.orElse_eq hpolicy,
    Json.Fields.optional_str hclass, Json.Fields.optional_str hthread,
    Json.Fields.orElse_eq hconditions, Json.Fields.orElse_eq hmonitors, hread,
    Json.nat?_nat hskip, Json.nat?_nat hexpire, SuspendPolicy.ofJson?_toJson, Json.list?_strings,
    Json.bool?, Json.str?]
  cases Spec.ofJson? record.spec.toJson with
  | none => rfl
  | some spec => rfl

end Record

namespace SourceKey

/-- Whatever path a key was made from, its own path is not empty, has no slash at either end, no
empty segment, and no backslash, control character, question mark or hash sign.  The key is read
back from its path, from the text it is written out as, and as part of a line or of a record that
was saved as JSON, always with the same result; this is the same key unless its path still starts
with `./`, and reading the result once more changes nothing. -/
theorem ofPath_reread {path : String} {key : SourceKey} (h : ofPath path = .ok key) :
    (key.path ≠ "" ∧ key.path.toList.head? ≠ some '/' ∧ key.path.toList.getLast? ≠ some '/' ∧
      (∀ segment ∈ key.path.toList.splitOn '/', segment ≠ []) ∧
      ∀ c ∈ key.path.toList, c ≠ '\\' ∧ Text.isControl c = false ∧ c ≠ '?' ∧ c ≠ '#') ∧
    ofPath key.path = .ok key.reread ∧ ofText key.url = .ok key.reread ∧
    (∀ spec : LineSpec, spec.key = key → spec.line ≤ maxWord →
      Spec.ofJson? (Spec.line spec).toJson = some (.line { spec with key := key.reread })) ∧
    (∀ (record : Record) (spec : LineSpec), record.spec = .line spec → spec.key = key →
      spec.line ≤ maxWord → record.skipCount ≤ maxWord → record.expireCount ≤ maxWord →
        Record.ofJson? record.toJson =
          some { record with spec := .line { spec with key := key.reread } }) ∧
    (key.reread = key ↔ ¬ "./".toList <+: key.path.toList) ∧
    ofPath key.reread.path = .ok key.reread ∧ ofText key.reread.url = .ok key.reread := by
  have hform : PathForm key.path.toList := pathForm_of_ofPath h
  have hpath : ofPath key.path = .ok key.reread := ofPath_path hform
  have htext : ofText key.url = .ok key.reread := (ofText_url key).trans hpath
  have hagain : ofPath key.reread.path = .ok key.reread := by
    rw [ofPath_path hform.reread, reread_reread]
  have hline : ∀ spec : LineSpec, spec.key = key → spec.line ≤ maxWord →
      Spec.ofJson? (Spec.line spec).toJson = some (.line { spec with key := key.reread }) := by
    intro spec hkey hbound
    rw [Spec.ofJson?_line hbound, hkey, htext]
    rfl
  refine ⟨⟨?_, hform.segments.head?_ne, hform.segments.getLast?_ne, hform.segments, hform.plain⟩,
    hpath, htext, hline, ?_, reread_eq_self_iff, hagain, (ofText_url _).trans hagain⟩
  · rintro hempty
    exact hform.segments.ne_nil (by rw [hempty]; rfl)
  · intro record spec hspec hkey hbound hskip hexpire
    rw [Record.ofJson?_toJson record hskip hexpire, hspec, hline spec hkey hbound]
    rfl

/-- A path with backslashes makes a key that is read back unchanged. -/
theorem ofPath_reread_backslashes :
    let key : SourceKey := ⟨"com/example/Foo.java"⟩
    let spec : LineSpec := ⟨key, none, "*", "Foo.java", 7⟩
    ofPath ".\\com\\example\\Foo.java" = .ok key ∧ ofPath key.path = .ok key ∧
      ofText key.url = .ok key ∧ Spec.ofJson? (Spec.line spec).toJson = some (.line spec) := by
  intro key spec
  have hmade : ofPath ".\\com\\example\\Foo.java" = .ok key := by decide
  obtain ⟨-, hpath, htext, hline, -, hsame, -⟩ := ofPath_reread hmade
  have hkept : key.reread = key := hsame.mpr (by decide)
  rw [hkept] at hpath htext hline
  exact ⟨hmade, hpath, htext, hline spec rfl (by decide)⟩

/-- With a slash in front of it, `./` stays in the key, and reading the key again gives another. -/
theorem ofPath_loses_here :
    ¬ ∀ (path : String) (key : SourceKey), ofPath path = .ok key →
      ofPath key.path = .ok key ∧ ofText key.url = .ok key := by
  intro h
  have hmade : ofPath "/./a/B.java" = .ok ⟨"./a/B.java"⟩ := by decide
  have hkept := (h _ _ hmade).1
  have hother : ofPath "./a/B.java" = .ok ⟨"a/B.java"⟩ := by decide
  rw [hother] at hkept
  simp at hkept

end SourceKey

end Breakpoints
