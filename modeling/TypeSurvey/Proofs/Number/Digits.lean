import TypeSurvey.Number.Literal
import Mathlib.Tactic.IntervalCases
import Mathlib.Tactic.Ring

/-!
# Digits and their values

The decimal digits of a number give the number back, and digits denote a number below the power of
ten of their count. Four hexadecimal digits write every unit of UTF-16.
-/

namespace TypeSurvey

/-! ## Decimal digits -/

namespace Numeral

theorem digitsValue_eq_ofDigitChars (digits : Text) :
    digitsValue digits = Nat.ofDigitChars 10 digits 0 := by
  rw [digitsValue, Nat.ofDigitChars_eq_foldl]
  congr 1
  funext value digit
  rw [Nat.mul_comm]
  rfl

theorem digitsValue_ofNat (number : Nat) : digitsValue (Text.ofNat number) = number := by
  rw [digitsValue_eq_ofDigitChars, Text.ofNat, Nat.ofDigitChars_ten_toDigits]

/-- A number has no more digits than it is written with. -/
theorem digitsValue_lt (digits : Text) (decimal : ∀ digit ∈ digits, digit.isDigit = true) :
    digitsValue digits < 10 ^ digits.length := by
  rw [digitsValue_eq_ofDigitChars]
  induction digits with
  | nil => simp
  | cons digit digits induction =>
    have rest := induction fun other member => decimal other (List.mem_cons_of_mem _ member)
    have first := decimal digit List.mem_cons_self
    have value : digit.toNat - '0'.toNat ≤ 9 := by
      simp only [Char.isDigit, Bool.and_eq_true, decide_eq_true_eq] at first
      have upper : digit.val.toNat ≤ 57 := UInt32.le_iff_toNat_le.mp first.2
      change digit.val.toNat - 48 ≤ 9
      omega
    rw [Nat.ofDigitChars_cons, Nat.ofDigitChars_eq_ofDigitChars_zero, List.length_cons]
    calc
      10 ^ digits.length * (10 * 0 + (digit.toNat - '0'.toNat)) + Nat.ofDigitChars 10 digits 0
          < 10 ^ digits.length * (digit.toNat - '0'.toNat) + 10 ^ digits.length := by
        rw [Nat.mul_zero, Nat.zero_add]
        exact Nat.add_lt_add_left rest _
      _ ≤ 10 ^ digits.length * 9 + 10 ^ digits.length := by
        exact Nat.add_le_add_right (Nat.mul_le_mul_left _ value) _
      _ = 10 ^ (digits.length + 1) := by ring

end Numeral

namespace Text

theorem isDigit_of_mem_ofNat {number : Nat} {digit : Char} (member : digit ∈ ofNat number) :
    digit.isDigit = true :=
  Nat.isDigit_of_mem_toDigits (by decide) (by decide) member

theorem ofNat_ne_nil (number : Nat) : ofNat number ≠ [] := Nat.toDigits_ne_nil

/-- Digits as many as a bound write exactly the numbers below its power of ten. -/
theorem length_ofNat_le_iff {number count : Nat} (positive : 0 < count) :
    (ofNat number).length ≤ count ↔ number < 10 ^ count :=
  Nat.length_toDigits_le_iff (by decide) positive

theorem head_ofNat {number : Nat} (positive : 0 < number) : (ofNat number).head? ≠ some '0' := by
  induction number using Nat.strong_induction_on with
  | _ number induction =>
    by_cases single : number < 10
    · rw [ofNat, Nat.toDigits_of_lt_base single]
      interval_cases number <;> decide
    · have shorter := induction (number / 10) (by omega) (by omega)
      obtain ⟨first, rest, digits⟩ := List.exists_cons_of_ne_nil (ofNat_ne_nil (number / 10))
      rw [digits] at shorter
      rw [ofNat, Nat.toDigits_of_base_le (by decide) (by omega)]
      change (ofNat (number / 10) ++ _).head? ≠ some '0'
      rw [digits]
      exact shorter

/-! ## Hexadecimal digits -/

theorem ofNatBase_hexadecimal {unit : Nat} (small : unit < 0x10000) :
    ofNatBase 16 4 unit =
      [(unit / 4096).digitChar, (unit / 256 % 16).digitChar, (unit / 16 % 16).digitChar,
        (unit % 16).digitChar] := by
  have base : 1 < 16 := by decide
  -- one case for each count of digits without the zeros in front
  by_cases one : unit < 16
  · rw [ofNatBase, Nat.toDigits_of_lt_base one]
    rw [show unit / 4096 = 0 by omega, show unit / 256 % 16 = 0 by omega,
      show unit / 16 % 16 = 0 by omega, show unit % 16 = unit by omega]
    rfl
  by_cases two : unit < 256
  · rw [ofNatBase, Nat.toDigits_of_base_le base (by omega),
      Nat.toDigits_of_lt_base (show unit / 16 < 16 by omega)]
    rw [show unit / 4096 = 0 by omega, show unit / 256 % 16 = 0 by omega,
      show unit / 16 % 16 = unit / 16 by omega]
    rfl
  by_cases three : unit < 4096
  · rw [ofNatBase, Nat.toDigits_of_base_le base (by omega),
      Nat.toDigits_of_base_le base (by omega),
      Nat.toDigits_of_lt_base (show unit / 16 / 16 < 16 by omega)]
    rw [show unit / 4096 = 0 by omega, show unit / 256 % 16 = unit / 16 / 16 by omega]
    rfl
  · rw [ofNatBase, Nat.toDigits_of_base_le base (by omega),
      Nat.toDigits_of_base_le base (by omega), Nat.toDigits_of_base_le base (by omega),
      Nat.toDigits_of_lt_base (show unit / 16 / 16 / 16 < 16 by omega)]
    rw [show unit / 16 / 16 / 16 = unit / 4096 by omega,
      show unit / 16 / 16 % 16 = unit / 256 % 16 by omega]
    rfl

end Text

end TypeSurvey
