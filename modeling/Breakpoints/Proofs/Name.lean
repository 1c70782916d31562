import Breakpoints.Name.Identifier
import Breakpoints.Proofs.Numeral
import Breakpoints.Proofs.Text
import Mathlib.Tactic.Tauto

/-!
Which characters stand in names.  No punctuation does, apart from the dots between the parts of a
class name and the brackets of the initialisers, and no name begins with a digit.
-/

namespace Breakpoints

namespace Text

/-- Two tables without a common code point. -/
def CharTable.Apart (s t : CharTable) : Prop :=
  ∀ a ∈ s, ∀ b ∈ t, a.2 < b.1 ∨ b.2 < a.1

instance (s t : CharTable) : Decidable (s.Apart t) :=
  inferInstanceAs (Decidable (∀ a ∈ s, ∀ b ∈ t, a.2 < b.1 ∨ b.2 < a.1))

namespace CharTable

theorem exists_of_hasCode {t : CharTable} {n : Nat} (h : t.hasCode n = true) :
    ∃ range ∈ t, range.1 ≤ n ∧ n ≤ range.2 := by
  induction t with
  | nil => contradiction
  | cons range rest ih =>
      rw [hasCode] at h
      split at h
      next => contradiction
      next hfirst =>
        simp only [Bool.or_eq_true, decide_eq_true_eq] at h
        rcases h with hlast | hlater
        · exact ⟨range, List.mem_cons_self, by omega, hlast⟩
        · obtain ⟨found, hfound, hrange⟩ := ih hlater
          exact ⟨found, List.mem_cons_of_mem range hfound, hrange⟩

theorem Apart.has_eq_false {s t : CharTable} (h : s.Apart t) {c : Char} (hc : s.has c = true) :
    t.has c = false := by
  by_contra hother
  rw [Bool.not_eq_false] at hother
  obtain ⟨a, ha, hlow, hhigh⟩ := exists_of_hasCode hc
  obtain ⟨b, hb, hlow', hhigh'⟩ := exists_of_hasCode hother
  have hapart := h a ha b hb
  omega

end CharTable

/-- There is no letter before the capital A. -/
theorem isLetter_of_lt {c : Char} (h : c.toNat < 0x41) : isLetter c = false := by
  change CharTable.hasCode ((0x41, _) :: _) c.toNat = false
  rw [CharTable.hasCode, if_pos h]

end Text

namespace Name

/-- Characters that are neither letters, numbers nor the two marks stand in no identifier. -/
theorem continuesIdentifier_of_apart {table : Text.CharTable} (hletters : table.Apart Text.letters)
    (hdecimals : table.Apart Text.decimals) (hothers : table.Apart Text.otherNumbers)
    (hline : table.has '_' = false) (hdollar : table.has '$' = false) {c : Char}
    (hc : table.has c = true) : continuesIdentifier c = false := by
  have hnoLine : c ≠ '_' := by
    rintro rfl
    exact Bool.false_ne_true (hline.symm.trans hc)
  have hnoDollar : c ≠ '$' := by
    rintro rfl
    exact Bool.false_ne_true (hdollar.symm.trans hc)
  simp [continuesIdentifier, Text.isLetter, Text.isNumber, hletters.has_eq_false hc,
    hdecimals.has_eq_false hc, hothers.has_eq_false hc, hnoLine, hnoDollar]

theorem continuesIdentifier_of_isBlank {c : Char} (h : Text.isBlank c = true) :
    continuesIdentifier c = false :=
  continuesIdentifier_of_apart (by decide +kernel) (by decide +kernel) (by decide +kernel) rfl rfl h

theorem continuesIdentifier_of_isControl {c : Char} (h : Text.isControl c = true) :
    continuesIdentifier c = false :=
  continuesIdentifier_of_apart (by decide +kernel) (by decide +kernel) (by decide +kernel) rfl rfl h

theorem mem_of_isIdentifier {s : List Char} (h : isIdentifier s = true) {c : Char} (hc : c ∈ s) :
    continuesIdentifier c = true := by
  cases s with
  | nil => contradiction
  | cons first rest =>
      simp only [isIdentifier, Bool.and_eq_true, List.all_eq_true] at h
      rcases List.mem_cons.mp hc with rfl | hrest
      · have hstarts := h.1
        simp only [startsIdentifier, continuesIdentifier, Bool.or_eq_true] at hstarts ⊢
        tauto
      · exact h.2 c hrest

theorem checkMember_eq_ok_iff {name : String} :
    checkMember name = .ok () ↔ isMemberName name = true := by
  rw [checkMember]
  split
  next h => simp [h]
  next h => simp [h]

theorem checkClass_eq_ok_iff {name : String} :
    checkClass name = .ok () ↔ isClassName name.toList = true := by
  rw [checkClass]
  split
  next h => simp [h]
  next h => simp [h]

theorem isMemberName_ofList_iff {s : List Char} : isMemberName (String.ofList s) = true ↔
    s = ['<', 'i', 'n', 'i', 't', '>'] ∨ s = ['<', 'c', 'l', 'i', 'n', 'i', 't', '>'] ∨
      isIdentifier s = true := by
  simp [isMemberName, ← String.toList_inj, or_assoc]

/-- What does not continue an identifier stands in no member name, but for the brackets. -/
theorem not_mem_of_isMemberName {s : List Char} (h : isMemberName (String.ofList s) = true)
    {c : Char} (hc : continuesIdentifier c = false) (hopen : c ≠ '<') (hclose : c ≠ '>') :
    c ∉ s := by
  intro hmem
  have hcontinues : continuesIdentifier c = true := by
    rcases isMemberName_ofList_iff.mp h with rfl | rfl | hidentifier
    · simp only [List.mem_cons, List.not_mem_nil, or_false, hopen, hclose, false_or] at hmem
      rcases hmem with rfl | rfl | rfl | rfl <;> rfl
    · simp only [List.mem_cons, List.not_mem_nil, or_false, hopen, hclose, false_or] at hmem
      rcases hmem with rfl | rfl | rfl | rfl | rfl | rfl <;> rfl
    · exact mem_of_isIdentifier hidentifier hmem
  rw [hc] at hcontinues
  contradiction

/-- What does not continue an identifier stands in no class name, but for the dots. -/
theorem not_mem_of_isClassName {s : List Char} (h : isClassName s = true) {c : Char}
    (hc : continuesIdentifier c = false) (hdot : c ≠ '.') : c ∉ s := by
  intro hmem
  obtain ⟨piece, hpiece, hin⟩ := Text.exists_mem_splitOn hmem hdot
  rw [isClassName, List.all_eq_true] at h
  have hcontinues := mem_of_isIdentifier (h piece hpiece) hin
  rw [hc] at hcontinues
  contradiction

/-- A digit does not begin an identifier. -/
theorem startsIdentifier_digit {c : Char} (h : c.isDigit = true) : startsIdentifier c = false := by
  have hrange : 48 ≤ c.toNat ∧ c.toNat ≤ 57 := by
    simpa [Char.isDigit, UInt32.le_iff_toNat_le] using h
  have hletter : Text.isLetter c = false := Text.isLetter_of_lt (by omega)
  have hmark : c ≠ '_' ∧ c ≠ '$' := by
    constructor
    · rintro rfl
      contradiction
    · rintro rfl
      contradiction
  simp [startsIdentifier, hletter, hmark]

/-- Digits are no member name. -/
theorem isMemberName_digits {s : List Char} (h : Text.Digits s) :
    isMemberName (String.ofList s) = false := by
  cases s with
  | nil => exact absurd rfl h.nonempty
  | cons c rest =>
      have hdigit : c.isDigit = true := h.digits c List.mem_cons_self
      have hstarts : startsIdentifier c = false := startsIdentifier_digit hdigit
      rw [← Bool.not_eq_true, isMemberName_ofList_iff]
      rintro (heq | heq | hidentifier)
      · cases heq
        contradiction
      · cases heq
        contradiction
      · simp [isIdentifier, hstarts] at hidentifier

end Name

end Breakpoints
