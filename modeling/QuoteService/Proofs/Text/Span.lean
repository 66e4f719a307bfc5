import Mathlib.Data.List.TakeWhile
import Mathlib.Tactic.Common

/-! Where a reader stops that goes on while characters are of a class. -/
namespace QuoteService.Text

variable {p : Char → Bool} {body rest : List Char}

theorem takeWhile_append_stop (inside : ∀ c ∈ body, p c)
    (stop : ∀ c, rest.head? = some c → p c = false) : (body ++ rest).takeWhile p = body := by
  rw [List.takeWhile_append_of_pos inside]
  cases rest with
  | nil => simp
  | cons c more => simp [stop c rfl]

theorem dropWhile_append_stop (inside : ∀ c ∈ body, p c)
    (stop : ∀ c, rest.head? = some c → p c = false) : (body ++ rest).dropWhile p = rest := by
  rw [List.dropWhile_append_of_pos inside]
  cases rest with
  | nil => rfl
  | cons c more => simp [stop c rfl]

end QuoteService.Text
