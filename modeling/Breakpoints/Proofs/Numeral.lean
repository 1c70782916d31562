import Breakpoints.Text.Numeral
import Mathlib.Data.List.Induction
import Mathlib.Data.Nat.Digits.Defs

/-!
Numerals and the numbers that they stand for in decimal notation.
-/

namespace Breakpoints.Text

/-- Decimal digits, one or more. -/
structure Digits (s : List Char) : Prop where
  nonempty : s ≠ []
  digits : ∀ c ∈ s, c.isDigit = true

/-- The number that digits stand for: the last one counts ones, the one before it tens. -/
def decimal (s : List Char) : Nat :=
  Nat.ofDigits 10 (s.reverse.map fun c => c.toNat - '0'.toNat)

/-- A character that is no digit does not stand among digits. -/
theorem Digits.not_mem {s : List Char} (h : Digits s) {c : Char} (hc : c.isDigit = false) :
    c ∉ s := by
  intro hmem
  rw [h.digits c hmem] at hc
  contradiction

theorem isNumeral_iff {s : List Char} : isNumeral s = true ↔ Digits s := by
  rw [isNumeral, Bool.and_eq_true, List.all_eq_true, Bool.not_eq_true',
    List.isEmpty_eq_false_iff]
  exact ⟨fun h => ⟨h.1, h.2⟩, fun h => ⟨h.nonempty, h.digits⟩⟩

/-- The value that is read digit by digit is that of the decimal notation. -/
theorem numeralValue_eq (s : List Char) : numeralValue s = decimal s := by
  induction s using List.reverseRecOn with
  | nil => rfl
  | append_singleton s c ih =>
      have hread : numeralValue (s ++ [c]) = 10 * numeralValue s + digitValue c := by
        simp [numeralValue]
      rw [hread, ih, decimal, decimal, List.reverse_concat, List.map_cons, Nat.ofDigits_cons,
        digitValue]
      exact Nat.add_comm _ _

theorem readNumeral?_eq_some_iff {bound n : Nat} {s : List Char} :
    readNumeral? bound s = some n ↔ Digits s ∧ decimal s = n ∧ n ≤ bound := by
  rw [readNumeral?_eq, Option.ite_none_right_eq_some, isNumeral_iff, numeralValue_eq,
    Option.some.injEq]
  constructor
  · rintro ⟨⟨hdigits, hle⟩, rfl⟩
    exact ⟨hdigits, rfl, hle⟩
  · rintro ⟨hdigits, rfl, hle⟩
    exact ⟨⟨hdigits, hle⟩, rfl⟩

theorem digits_toString (n : Nat) : Digits (toString n).toList := by
  rw [Nat.toString_eq_repr, Nat.toList_repr]
  exact ⟨Nat.toDigits_ne_nil,
    fun c hc => Nat.isDigit_of_mem_toDigits (by decide) (by decide) hc⟩

theorem decimal_toString (n : Nat) : decimal (toString n).toList = n := by
  rw [← numeralValue_eq, Nat.toString_eq_repr, Nat.toList_repr]
  exact Nat.ofDigitChars_toDigits (by decide) (by decide)

end Breakpoints.Text
