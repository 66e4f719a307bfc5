import QuoteService.Number.Binary64

/-! The shortest decimal text that reads back as the same binary number: the fewest digits, and of
those the nearest. -/
namespace QuoteService.Number

/-- How often a fraction must be multiplied by ten to reach one; at most `fuel` times. -/
def stepsToOne : (fuel num den : Nat) → Nat
  | 0, _, _ => 0
  | fuel + 1, num, den => if den ≤ num then 0 else stepsToOne fuel (num * 10) den + 1

/-- The power of ten of the leading digit of a positive fraction. -/
def leadingPower (num den : Nat) : Int :=
  if den ≤ num then ((Nat.toDigits 10 (num / den)).length : Int) - 1
  else -(stepsToOne 400 num den : Int)

/-- `value` over `10 ^ g` as a fraction of whole numbers. -/
def onGrid (num den : Nat) (g : Int) : Nat × Nat :=
  if 0 ≤ g then (num, den * Nat.pow 10 g.toNat) else (num * Nat.pow 10 (-g).toNat, den)

/-- A digit string `digits`, to be read times `10 ^ power`. -/
structure DecimalForm where
  digits : Nat
  power : Int

/-- The fractions of an interval over a common denominator; its ends belong to it if `closed`. -/
structure Interval where
  low : Nat
  value : Nat
  high : Nat
  den : Nat
  closed : Bool

def Interval.contains (i : Interval) (num den : Nat) : Bool :=
  if i.closed then i.low * den ≤ num * i.den && num * i.den ≤ i.high * den
  else i.low * den < num * i.den && num * i.den < i.high * den

/-- The neighbour of the value on the grid of multiples of `10 ^ g` that lies in the interval; the
nearer one if both do, and of two equally near ones the even one. -/
def Interval.gridPoint? (i : Interval) (g : Int) : Option DecimalForm :=
  let (n, d) := onGrid i.value i.den g
  let below := n / d
  let inside (k : Nat) : Bool :=
    if 0 ≤ g then i.contains (k * Nat.pow 10 g.toNat) 1 else i.contains k (Nat.pow 10 (-g).toNat)
  let nearestPoint := roundedQuotient n d
  if inside nearestPoint then some ⟨nearestPoint, g⟩
  else if inside below then some ⟨below, g⟩
  else if inside (below + 1) then some ⟨below + 1, g⟩
  else none

/-- The numbers that round to `m * 2 ^ e`, with the ends if the significand is even. Below a power of
two the gap is half as wide. -/
def roundingInterval (m : Nat) (e : Int) : Interval :=
  let low := if m = Nat.pow 2 52 ∧ e > -1074 then 4 * m - 1 else 4 * m - 2
  let closed := m % 2 == 0
  let e := e - 2
  if 0 ≤ e then
    let p := Nat.pow 2 e.toNat
    ⟨low * p, 4 * m * p, (4 * m + 2) * p, 1, closed⟩
  else ⟨low, 4 * m, 4 * m + 2, Nat.pow 2 (-e).toNat, closed⟩

/-- The first of the grids of one to seventeen digits that has a point in the interval. -/
def shortestForm (m : Nat) (e : Int) : DecimalForm :=
  let i := roundingInterval m e
  let k := leadingPower i.value i.den
  ((List.range 17).findSome? fun (n : Nat) => i.gridPoint? (k - n)).getD ⟨m, 0⟩

/-- Drops the zeros at the end of a digit string. -/
def dropZeros (digits : List Char) : List Char :=
  (digits.reverse.dropWhile (· == '0')).reverse

/-- Numbers are written positionally from `1e-4` up to `1e16`, with at least one place after the
point; outside with an exponent of a sign and at least two digits. -/
def positionalText (digits : List Char) (k : Int) : List Char :=
  if k < 0 then '0' :: '.' :: List.replicate (-k - 1).toNat '0' ++ digits
  else
    let whole := digits.take (k.toNat + 1)
    let places := digits.drop (k.toNat + 1)
    whole ++ List.replicate (k.toNat + 1 - whole.length) '0' ++
      '.' :: (if places.isEmpty then ['0'] else places)

/-- Zeros in front of digits, up to a width. -/
def zeroPadded (width : Nat) (digits : List Char) : List Char :=
  List.replicate (width - digits.length) '0' ++ digits

/-- A power of ten: its sign and at least two digits. -/
def powerText (k : Int) : List Char :=
  'e' :: (if k < 0 then '-' else '+') :: zeroPadded 2 (Nat.toDigits 10 k.natAbs)

def exponentText (digits : List Char) (k : Int) : List Char :=
  digits.take 1 ++ (if digits.length > 1 then '.' :: digits.drop 1 else []) ++ powerText k

def magnitudeText (m : Nat) (e : Int) : List Char :=
  if m = 0 then ['0', '.', '0']
  else
    let form := shortestForm m e
    let all := Nat.toDigits 10 form.digits
    let k := form.power + all.length - 1
    let digits := dropZeros all
    if -4 ≤ k ∧ k < 16 then positionalText digits k else exponentText digits k

/-- The text of a finite number; `nan`, `inf` and `-inf` for the others. -/
def Binary64.text : Binary64 → String
  | .nan => "nan"
  | .infinite negative => if negative then "-inf" else "inf"
  | .finite negative m e =>
    String.ofList ((if negative then ['-'] else []) ++ magnitudeText m e)

end QuoteService.Number
