/-!
Decimal numerals with a bound, and hexadecimal digits.
-/

namespace Breakpoints.Text

/-- The largest value of a counter or line number. -/
def maxWord : Nat := 0xFFFFFFFF

/-- The largest value of an identifier on the target's side. -/
def maxLong : Nat := 0xFFFFFFFFFFFFFFFF

/-- One or more decimal digits and nothing else. -/
def isNumeral (s : List Char) : Bool :=
  !s.isEmpty && s.all Char.isDigit

/-- The value of a decimal digit. -/
def digitValue (c : Char) : Nat :=
  c.toNat - '0'.toNat

/-- The value of a row of decimal digits. -/
def numeralValue (digits : List Char) : Nat :=
  digits.foldl (fun n c => 10 * n + digitValue c) 0

/-- Reads on one decimal digit after a value, as long as the value stays within a bound. -/
def addDigit? (bound n : Nat) (c : Char) : Option Nat :=
  if 10 * n + digitValue c ≤ bound then some (10 * n + digitValue c) else none

/-- Reads a numeral whose value is at most `bound`.  The value of a numeral is at least that of each
of its beginnings, so reading stops at the first digit that takes it past `bound`. -/
def readNumeral? (bound : Nat) (s : List Char) : Option Nat :=
  if isNumeral s then s.foldlM (addDigit? bound) 0 else none

theorem le_foldl_digits (n : Nat) (digits : List Char) :
    n ≤ digits.foldl (fun n c => 10 * n + digitValue c) n := by
  induction digits generalizing n with
  | nil => exact Nat.le_refl n
  | cons c rest ih => exact Nat.le_trans (by omega) (ih (10 * n + digitValue c))

theorem foldlM_addDigit? {bound n : Nat} (h : n ≤ bound) (digits : List Char) :
    digits.foldlM (addDigit? bound) n =
      if digits.foldl (fun n c => 10 * n + digitValue c) n ≤ bound then
        some (digits.foldl (fun n c => 10 * n + digitValue c) n)
      else none := by
  induction digits generalizing n with
  | nil => simp [h]
  | cons c rest ih =>
    rw [List.foldlM_cons, List.foldl_cons]
    by_cases hc : 10 * n + digitValue c ≤ bound
    · rw [addDigit?, if_pos hc]
      exact ih hc
    · have hle := le_foldl_digits (10 * n + digitValue c) rest
      rw [addDigit?, if_neg hc, if_neg (by omega)]
      rfl

/-- A numeral is read exactly if its value is within the bound. -/
theorem readNumeral?_eq (bound : Nat) (s : List Char) :
    readNumeral? bound s =
      if isNumeral s ∧ numeralValue s ≤ bound then some (numeralValue s) else none := by
  rw [readNumeral?, numeralValue]
  by_cases hs : isNumeral s
  · simp [hs, foldlM_addDigit? (Nat.zero_le bound)]
  · simp [hs]

/-- The value of a hexadecimal digit of either case. -/
def hexDigit? (c : Char) : Option Nat :=
  if c.isDigit then some (c.toNat - '0'.toNat)
  else if 'a' ≤ c ∧ c ≤ 'f' then some (c.toNat - 'a'.toNat + 10)
  else if 'A' ≤ c ∧ c ≤ 'F' then some (c.toNat - 'A'.toNat + 10)
  else none

/-- The value of a row of hexadecimal digits. -/
def hexValue? (digits : List Char) : Option Nat :=
  digits.foldlM (fun n c => (hexDigit? c).map (16 * n + ·)) 0

/-- Lower-case hexadecimal digits without leading zeros. -/
def hexText (n : Nat) : String :=
  String.ofList (Nat.toDigits 16 n)

end Breakpoints.Text
