import Mathlib.Tactic.Common

/-! Letters, digits and all other characters of ASCII. -/
namespace QuoteService.Text

theorem isAlphanum_lt {c : Char} (h : c.isAlphanum) : c.toNat < 0x80 := by
  have bounds : (decide (65 ≤ c.val ∧ c.val ≤ 90) || (97 ≤ c.val && c.val ≤ 122) ||
      (48 ≤ c.val && c.val ≤ 57)) = true := h
  simp [UInt32.le_iff_toNat_le] at bounds
  omega

/-- What holds of each ASCII character is checked one by one. -/
@[elab_as_elim]
theorem ascii_cases {motive : Char → Prop} (c : Char) (small : c.toNat < 0x80)
    (all : ∀ n : Fin 0x80, motive (Char.ofNat n)) : motive c := by
  have here := all ⟨c.toNat, small⟩
  rwa [Char.ofNat_toNat] at here

end QuoteService.Text
