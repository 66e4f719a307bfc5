/-! Binary floating-point numbers of 64 bits, as exact values: a significand times a power of two. -/
namespace QuoteService.Number

inductive Binary64 where
  | nan
  | infinite (negative : Bool)
  | finite (negative : Bool) (significand : Nat) (exponent : Int)
  deriving DecidableEq, Repr

/-- The quotient rounded to the nearest whole number, a half to the even neighbour. -/
def roundedQuotient (num den : Nat) : Nat :=
  let q := num / den
  let r := num % den
  if 2 * r < den then q else if den < 2 * r then q + 1 else q + q % 2

/-- `num / den / 2 ^ e` as a fraction of whole numbers. -/
def scaled (num den : Nat) (e : Int) : Nat × Nat :=
  if 0 ≤ e then (num, den * Nat.pow 2 e.toNat) else (num * Nat.pow 2 (-e).toNat, den)

namespace Binary64

/-- The number nearest to a positive fraction. A significand has at most 53 bits and, above the
smallest exponent, no fewer; what needs an exponent above 971 is infinite. -/
def nearest (negative : Bool) (num den : Nat) : Binary64 :=
  if num = 0 then .finite negative 0 0
  else
    let guess : Int := (num.log2 : Int) - (den.log2 : Int) - 52
    let (n, d) := scaled num den guess
    let e := max (if n / d < Nat.pow 2 52 then guess - 1 else guess) (-1074)
    let (n, d) := scaled num den e
    let m := roundedQuotient n d
    let (m, e) := if m = Nat.pow 2 53 then (Nat.pow 2 52, e + 1) else (m, e)
    if e > 971 then .infinite negative else .finite negative m e

/-- The number nearest to `digits * 10 ^ exponent`. Exponents far outside the range are settled
without computing the power. -/
def ofDecimal (negative : Bool) (digits : Nat) (exponent : Int) : Binary64 :=
  if digits = 0 then .finite negative 0 0
  else if exponent > 400 then .infinite negative
  else if exponent + (digits.log2 : Int) < -1200 then .finite negative 0 0
  else if 0 ≤ exponent then nearest negative (digits * Nat.pow 10 exponent.toNat) 1
  else nearest negative digits (Nat.pow 10 (-exponent).toNat)

/-- The whole number equal to this one, if there is one. -/
def toInteger? : Binary64 → Option Int
  | .finite negative m e =>
    let magnitude : Option Nat :=
      if 0 ≤ e then some (m * Nat.pow 2 e.toNat)
      else if m % Nat.pow 2 (-e).toNat = 0 then some (m / Nat.pow 2 (-e).toNat)
      else none
    magnitude.map fun n => if negative then -(n : Int) else n
  | _ => none

/-- A number, or one of the two infinities. -/
inductive Exact where
  | ratio (significand : Int) (exponent : Int)
  | infinite (negative : Bool)
  deriving DecidableEq, Repr

namespace Exact

def ofInt (n : Int) : Exact := .ratio n 0

/-- Whether two numbers are equal. Both are brought to the smaller power of two. -/
def sameAs : Exact → Exact → Bool
  | .ratio m e, .ratio n f =>
    let low := min e f
    m * Nat.pow 2 (e - low).toNat == n * Nat.pow 2 (f - low).toNat
  | .infinite a, .infinite b => a == b
  | _, _ => false

@[simp] theorem sameAs_ofInt (m n : Int) : (ofInt m).sameAs (ofInt n) = (m == n) := by
  simp [ofInt, sameAs]

end Exact

/-- The value of a number; what is not a number has none. -/
def fraction? : Binary64 → Option Exact
  | .nan => none
  | .infinite negative => some (.infinite negative)
  | .finite negative m e => some (.ratio (if negative then -(m : Int) else m) e)

def isFinite : Binary64 → Bool
  | .finite .. => true
  | _ => false

/-- The whole part, toward zero. -/
def truncate : Binary64 → Int
  | .finite negative m e =>
    let n := if 0 ≤ e then m * Nat.pow 2 e.toNat else m / Nat.pow 2 (-e).toNat
    if negative then -(n : Int) else n
  | _ => 0

end Binary64
end QuoteService.Number
