import QuoteService.Number.IntegerText
import QuoteService.Text.Blank
import QuoteService.Text.Digit

/-! Numbers in URLs: digits of any script, single underscores between digits, a sign in front, and
white space around. -/
namespace QuoteService.Number
open Text

/-- A text without the underscores between its digits; no others are allowed. -/
def ungrouped (afterDigit : Bool) : List Char → Option (List Char)
  | [] => some []
  | ['_'] => none
  | '_' :: c :: rest =>
    if afterDigit && isDecimal c then (ungrouped true rest).map (c :: ·) else none
  | c :: rest => (ungrouped (isDecimal c) rest).map (c :: ·)

/-- The value of decimal digits. -/
def decimalValue (cs : List Char) : Nat :=
  cs.foldl (fun n c => n * 10 + (digitValue? c).getD 0) 0

/-- The sign and what follows it, without white space and underscores. -/
def looseParts (text : String) : Option (Bool × List Char) :=
  (ungrouped false (trim isWhiteSpace text.toList)).map splitSign

def looseInteger? (text : String) : Option Int := do
  let (negative, digits) ← looseParts text
  if digits.isEmpty || !digits.all isDecimal then none
  else
    let n : Int := decimalValue digits
    some (if negative then -n else n)

/-- The names of numbers that have no digits. -/
def unboundedNames : List String := ["inf", "infinity", "nan"]

/-- An exponent: a letter, a sign or none, and digits. -/
def isExponent : List Char → Bool
  | c :: rest =>
    let digits := (splitSign rest).2
    c.toLower == 'e' && !digits.isEmpty && digits.all isDecimal
  | [] => false

/-- Digits with or without a point, and with or without an exponent. -/
def isDecimalText (cs : List Char) : Bool :=
  let whole := cs.takeWhile isDecimal
  let rest := cs.dropWhile isDecimal
  let pointed := rest.head? == some '.'
  let places := if pointed then (rest.drop 1).takeWhile isDecimal else []
  let rest := if pointed then (rest.drop 1).dropWhile isDecimal else rest
  (!whole.isEmpty || !places.isEmpty) && (rest.isEmpty || isExponent rest)

/-- Whether a text is that of a number with or without places. -/
def isLooseReal (text : String) : Bool :=
  (looseParts text).any fun (_, cs) =>
    isDecimalText cs || unboundedNames.contains (String.ofList (cs.map Char.toLower))

end QuoteService.Number
