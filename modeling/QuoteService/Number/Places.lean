import QuoteService.Number.Shortest

/-! Decimal text of a binary number with a given number of places or digits. The exact value is rounded
once, a half to the even neighbour. -/
namespace QuoteService.Number

/-- A significand times a power of two as a fraction of whole numbers. -/
def asFraction (m : Nat) (e : Int) : Nat × Nat :=
  if 0 ≤ e then (m * Nat.pow 2 e.toNat, 1) else (m, Nat.pow 2 (-e).toNat)

/-- Places behind a point; the point alone only if it is asked for. -/
def pointed (always : Bool) (places : List Char) : List Char :=
  if places.isEmpty && !always then [] else '.' :: places

/-- With so many places after the point. -/
def fixedText (point : Bool) (places m : Nat) (e : Int) : List Char :=
  let (num, den) := asFraction m e
  let digits := zeroPadded (places + 1)
    (Nat.toDigits 10 (roundedQuotient (num * Nat.pow 10 places) den))
  let whole := digits.length - places
  digits.take whole ++ pointed point (digits.drop whole)

/-- The first `count` digits, and the power of ten of the first of them. -/
def leadingDigits (count m : Nat) (e : Int) : List Char × Int :=
  if m = 0 then (List.replicate count '0', 0)
  else
    let (num, den) := asFraction m e
    let k := leadingPower num den
    let (n, d) := onGrid num den (k + 1 - count)
    let q := roundedQuotient n d
    if q = Nat.pow 10 count then (Nat.toDigits 10 (q / 10), k + 1) else (Nat.toDigits 10 q, k)

/-- One digit in front of the point, so many places behind it, and the power of ten. -/
def scientificText (point : Bool) (places m : Nat) (e : Int) : List Char :=
  let (digits, k) := leadingDigits (places + 1) m e
  digits.take 1 ++ pointed point (digits.drop 1) ++ powerText k

/-- So many digits, at least one. Small and large numbers have a power of ten; zeros at the end are
kept only together with the point. -/
def significantText (point : Bool) (count m : Nat) (e : Int) : List Char :=
  let count := max count 1
  let (digits, k) := leadingDigits count m e
  let places (ds : List Char) := pointed point (if point then ds else dropZeros ds)
  if -4 ≤ k ∧ k < count then
    if k < 0 then '0' :: places (zeroPadded (count + (-k - 1).toNat) digits)
    else digits.take (k.toNat + 1) ++ places (digits.drop (k.toNat + 1))
  else digits.take 1 ++ places (digits.drop 1) ++ powerText k

end QuoteService.Number
