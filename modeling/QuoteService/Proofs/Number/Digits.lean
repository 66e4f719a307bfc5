import Mathlib.Tactic.Common
import QuoteService.Number.IntegerText

/-! Decimal digits of natural numbers: read from the left they give the number back, and only zero
starts with a zero. -/
namespace QuoteService.Number

theorem digitsValue_eq (acc : Nat) (cs : List Char) :
    digitsValue acc cs = Nat.ofDigitChars 10 cs acc := by
  induction cs generalizing acc with
  | nil => rw [digitsValue_nil, Nat.ofDigitChars_nil]
  | cons c rest ih =>
    have zero : '0'.toNat = 0x30 := rfl
    rw [digitsValue_cons, ih, Nat.ofDigitChars_cons, zero, Nat.mul_comm 10]

@[simp] theorem digitsValue_toDigits (k : Nat) : digitsValue 0 (Nat.toDigits 10 k) = k := by
  rw [digitsValue_eq, Nat.ofDigitChars_ten_toDigits]

theorem isDigit_of_mem_decimal {k : Nat} {c : Char} (mem : c ∈ Nat.toDigits 10 k) : c.isDigit :=
  Nat.isDigit_of_mem_toDigits (by decide) (by decide) mem

theorem head?_toDigits {k : Nat} (positive : 0 < k) : (Nat.toDigits 10 k).head? ≠ some '0' := by
  induction k using Nat.strongRecOn with
  | ind k ih =>
    by_cases small : k < 10
    · have digits : ∀ d : Fin 10, 0 < d.val → Nat.digitChar d.val ≠ '0' := by decide
      rw [Nat.toDigits_of_lt_base small]
      simpa using digits ⟨k, small⟩ positive
    · have front := ih (k / 10) (by omega) (by omega)
      rw [Nat.toDigits_of_base_le (by decide) (by omega)]
      cases digits : Nat.toDigits 10 (k / 10) with
      | nil => exact absurd digits Nat.toDigits_ne_nil
      | cons c rest => simpa [digits] using front

/-- Digits are no number with a leading zero. -/
theorem leadingZero_toDigits (k : Nat) :
    ((Nat.toDigits 10 k).length > 1 && (Nat.toDigits 10 k).head? == some '0') = false := by
  obtain rfl | positive := Nat.eq_zero_or_pos k
  · rfl
  · simp [head?_toDigits positive]

end QuoteService.Number
