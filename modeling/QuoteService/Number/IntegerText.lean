import QuoteService.Text.Blank

/-! Whole numbers in text. A reader takes more than a writer makes: surrounding white space, a sign,
leading zeros, which may hide a minus sign, single underscores, and zeros after a decimal point. -/
namespace QuoteService.Number
open QuoteService.Text

/-- The decimal text of a whole number. -/
def integerText (n : Int) : String :=
  match n with
  | .ofNat k => String.ofList (Nat.toDigits 10 k)
  | .negSucc k => String.ofList ('-' :: Nat.toDigits 10 (k + 1))

/-- The value of digits read from the left, onto the number so far. -/
def digitsValue (acc : Nat) : List Char → Nat
  | [] => acc
  | c :: rest => digitsValue (acc * 10 + (c.toNat - 0x30)) rest

@[simp] theorem digitsValue_nil (acc : Nat) : digitsValue acc [] = acc := rfl

@[simp] theorem digitsValue_cons (acc : Nat) (c : Char) (rest : List Char) :
    digitsValue acc (c :: rest) = digitsValue (acc * 10 + (c.toNat - 0x30)) rest := by
  rw [digitsValue.eq_def]

inductive IntegerProblem where
  | malformed
  | tooLong
  deriving DecidableEq, Repr

/-- The most digits of a number in text. Numbers with more are neither read nor written. -/
def maxDigits : Nat := 4300

/-- Whether a number has few enough digits to be written. Its sign is not counted. -/
def isWritable (n : Int) : Bool := (Nat.toDigits 10 n.natAbs).length ≤ maxDigits

/-- The sign in front, and what follows it. -/
def splitSign : List Char → Bool × List Char
  | '-' :: rest => (true, rest)
  | '+' :: rest => (false, rest)
  | cs => (false, cs)

/-- A text that starts like a number and goes on for too long, where a minus sign counts as a digit. It
is given up before anything that follows is looked at. -/
def isOverlong (cs : List Char) : Bool :=
  let digits := match cs with
    | '-' :: rest => rest.takeWhile Char.isDigit
    | _ => cs.takeWhile Char.isDigit
  let sign := if cs.head? == some '-' then 1 else 0
  digits.head?.any (· != '0') && maxDigits < digits.length + sign

/-- What is left of zeros and underscores: the text from the first other digit or minus sign on, or
the last character if nothing else follows or a point does. -/
def afterZeros (last : Char) : List Char → Option (List Char)
  | [] => some [last]
  | c :: rest =>
    if c = '0' ∨ c = '_' then afterZeros c rest
    else if c = '.' then some (last :: c :: rest)
    else if c.isDigit ∨ c = '-' then some (c :: rest)
    else none

/-- A text without leading zeros. Only a digit or a minus sign may come first. -/
def dropLeadingZeros : List Char → Option (List Char)
  | [] => none
  | c :: rest =>
    if c = '0' then afterZeros c rest
    else if c.isDigit ∨ c = '-' then some (c :: rest)
    else none

/-- A text without the point and the zeros that it ends in. -/
def dropZeroFraction (cs : List Char) : List Char :=
  let zeros := (cs.dropWhile (· != '.')).drop 1
  if !zeros.isEmpty && zeros.all (· == '0') then cs.takeWhile (· != '.') else cs

def hasDoubleUnderscore : List Char → Bool
  | '_' :: '_' :: _ => true
  | _ :: rest => hasDoubleUnderscore rest
  | [] => false

/-- A text without underscores. They come one at a time, and neither first nor last. -/
def dropUnderscores (cs : List Char) : Option (List Char) :=
  if cs.head? == some '_' || cs.getLast? == some '_' || hasDoubleUnderscore cs then none
  else some (cs.filter (· != '_'))

/-- What a text with white space, leading zeros, underscores or a fraction of zeros stands for. A plus
sign and a minus sign do not follow each other. -/
def plainForm (s : String) : Option (List Char) :=
  let magnitude (cs : List Char) : Option (List Char) :=
    (dropLeadingZeros cs).bind fun cs => dropUnderscores (dropZeroFraction cs)
  match trim isWhiteSpace s.toList with
  | '-' :: rest => (magnitude rest).map ('-' :: ·)
  | '+' :: '-' :: _ => none
  | '+' :: rest => magnitude rest
  | cs => magnitude cs

/-- A number in plain form: digits without a leading zero, after at most a minus sign. -/
def ofPlainForm (cs : List Char) : Option Int :=
  let (negative, digits) := match cs with
    | '-' :: rest => (true, rest)
    | _ => (false, cs)
  let plain := digits == ['0'] || (digits.head?.any (· != '0') && digits.all Char.isDigit)
  if plain && cs.length ≤ maxDigits then
    let n : Int := digitsValue 0 digits
    some (if negative then -n else n)
  else none

/-- Reads a number. Only a text that is overlong as it stands counts as too long. -/
def readInteger (s : String) : Except IntegerProblem Int :=
  if isOverlong s.toList then .error .tooLong
  else match (plainForm s).bind ofPlainForm with
    | some n => .ok n
    | none => .error .malformed

end QuoteService.Number
