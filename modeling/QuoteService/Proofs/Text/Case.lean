import Mathlib.Data.List.Basic
import Mathlib.Tactic.Common
import QuoteService.Text.Case
import QuoteService.Text.Latin1

/-! Lower case in Latin-1: no character leaves it, and none looks at its neighbours. -/
namespace QuoteService.Text

/-- What holds of each Latin-1 character is checked one by one. -/
@[elab_as_elim]
theorem latin1_cases {motive : Char → Prop} (c : Char) (h : isLatin1 c)
    (all : ∀ n : Fin 0x100, motive (Char.ofNat n)) : motive c := by
  have here := all ⟨c.toNat, of_decide_eq_true h⟩
  rwa [Char.ofNat_toNat] at here

theorem lowerChar_latin1 {c : Char} (h : isLatin1 c) :
    (lowerChar c).all isLatin1 ∧ (lowerChar c).flatMap lowerChar = lowerChar c := by
  refine latin1_cases c h ?_
  decide +kernel

/-- The capital that looks at its neighbours is not in Latin-1. -/
theorem lowerAfter_latin1 {cs : List Char} (h : cs.all isLatin1) (before : List Char) :
    lowerAfter before cs = cs.flatMap lowerChar := by
  induction cs generalizing before with
  | nil => rfl
  | cons c rest ih =>
    obtain ⟨first, others⟩ : isLatin1 c ∧ rest.all isLatin1 := by simpa using h
    have plain : c ≠ '\u03a3' := by
      rintro rfl
      exact absurd first (by decide)
    rw [lowerAfter, ih others, List.flatMap_cons]
    simp [plain]

theorem toList_lower {s : String} (h : s.toList.all isLatin1) :
    (lower s).toList = s.toList.flatMap lowerChar := by
  rw [lower, String.toList_ofList, lowerAfter_latin1 h]

theorem isLatin1_lower {s : String} (h : s.toList.all isLatin1) :
    (lower s).toList.all isLatin1 := by
  rw [toList_lower h, List.all_eq_true]
  intro d mem
  obtain ⟨c, inside, small⟩ := List.mem_flatMap.1 mem
  exact List.all_eq_true.1 (lowerChar_latin1 (List.all_eq_true.1 h c inside)).1 d small

theorem lower_lower {s : String} (h : s.toList.all isLatin1) : lower (lower s) = lower s := by
  rw [← String.toList_inj, toList_lower (isLatin1_lower h), toList_lower h, List.flatMap_assoc]
  exact List.flatMap_congr fun c inside => (lowerChar_latin1 (List.all_eq_true.1 h c inside)).2

end QuoteService.Text
