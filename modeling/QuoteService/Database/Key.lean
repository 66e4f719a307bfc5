import QuoteService.Failure
import QuoteService.Json.Reader
import QuoteService.Number.Places

/-! Keys of statements. A key is compared with the cells of a column after it has been brought to the
type of the column: to a number for a column of whole numbers, to a text for a text column. -/
namespace QuoteService.Key
open Number Text

/-- Whole numbers of a database have 64 bits. -/
def isWord (n : Int) : Bool := -0x8000000000000000 ≤ n && n < 0x8000000000000000

/-- Blanks around a number in text. -/
def isBlank (c : Char) : Bool := c == ' ' || (0x09 ≤ c.toNat && c.toNat ≤ 0x0D)

/-- A number in text: digits with or without a point, and with or without an exponent. One without
either that has 64 bits is exact; all others are binary numbers. -/
def readNumber (text : String) : Option Json := do
  let (negative, cs) := splitSign (trim isBlank text.toList)
  let whole := cs.takeWhile Char.isDigit
  let rest := cs.dropWhile Char.isDigit
  let pointed := rest.head? == some '.'
  let places := if pointed then (rest.drop 1).takeWhile Char.isDigit else []
  let (exponent, rest) ← Json.readExponent
    (if pointed then (rest.drop 1).dropWhile Char.isDigit else rest)
  if (whole.isEmpty && places.isEmpty) || !rest.isEmpty then none
  else
    let digits := digitsValue 0 (whole ++ places)
    let n : Int := if negative then -digits else digits
    if !pointed && exponent.isNone && isWord n then some (.integer n)
    else some (.real (.ofDecimal negative digits (exponent.getD 0 - places.length)))

/-- Whether a key is the number in a column of whole numbers. -/
def isNumber (key : Json) (n : Int) : Bool :=
  let same (key : Json) : Bool := (key.number?).any fun x => x.sameAs (.ofInt n)
  match key with
  | .string text => (readNumber text).any same
  | key => same key

/-- Whether a key is a whole number, and not a binary one of the same value. -/
def isWhole : Json → Bool
  | .real _ => false
  | .string text =>
    match readNumber text with
    | some (.integer _) => true
    | _ => false
  | _ => true

/-- Whether a key is the number of a row. The least of all is found by whole numbers alone. -/
def isRowNumber (key : Json) (n : Int) : Bool := isNumber key n && (n != -0x8000000000000000 || isWhole key)

/-- A binary number as a text of at most fifteen digits, with one place at least. -/
def realText : Binary64 → Option String
  | .nan => none
  | .infinite negative => some (if negative then "-Inf" else "Inf")
  | .finite negative m e =>
    let (digits, k) := leadingDigits 15 m e
    let sign := if negative && m != 0 then ['-'] else []
    let places (ds : List Char) : List Char :=
      '.' :: (if (dropZeros ds).isEmpty then ['0'] else dropZeros ds)
    let magnitude :=
      if k < -4 ∨ 14 < k then digits.take 1 ++ places (digits.drop 1) ++ powerText k
      else if k < 0 then '0' :: places (List.replicate (-k - 1).toNat '0' ++ digits)
      else digits.take (k.toNat + 1) ++ places (digits.drop (k.toNat + 1))
    some (String.ofList (sign ++ magnitude))

/-- What a key is in a text column. Null is no text. -/
def text? : Json → Option String
  | .string s => some s
  | .bool b => some (if b then "1" else "0")
  | .integer n => some (integerText n)
  | .real x => realText x
  | _ => none

/-- Whether a key is the text in a text column; an empty cell fits no key. -/
def isText (key : Json) : Option String → Bool
  | some cell => text? key == some cell
  | none => false

/-- Keys that a database does not take. -/
def refusal? : Json → Option Failure
  | .integer n =>
    if isWord n then none
    else some (.fault .overflow (some "the number has more than 64 bits"))
  | .array _ => some (.fault .binding (some "a list is no key"))
  | .object _ => some (.fault .binding (some "an object is no key"))
  | _ => none

@[simp] theorem isText_string (s : String) (cell : Option String) :
    isText (.string s) cell = (cell == some s) := by
  cases cell with
  | none => rfl
  | some c => simp [isText, text?, Bool.beq_comm]

@[simp] theorem isNumber_integer (m n : Int) : isNumber (.integer m) n = (m == n) := by
  simp [isNumber, Json.number?]

@[simp] theorem isRowNumber_integer (m n : Int) :
    isRowNumber (.integer m) n = (m == n) := by
  simp [isRowNumber, isWhole]

@[simp] theorem refusal?_string (s : String) : refusal? (.string s) = none := rfl

@[simp] theorem refusal?_word (w : Int64) : refusal? (.integer w.toInt) = none := by
  have low := Int64.le_toInt w
  have high := Int64.toInt_lt w
  have fits : isWord w.toInt = true := by
    simp only [isWord, Bool.and_eq_true, decide_eq_true_eq]
    exact ⟨low, high⟩
  simp [refusal?, fits]

end QuoteService.Key
