/-! Ranges of code points. -/
namespace QuoteService.Text

/-- Whether a code point lies in one of some ranges, their ends included. -/
def inRanges (ranges : List (Nat × Nat)) (n : Nat) : Bool :=
  ranges.any fun r => r.1 ≤ n && n ≤ r.2

end QuoteService.Text
