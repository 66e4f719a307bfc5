import QuoteService.Json.Writer
import QuoteService.Log.Value
import QuoteService.Number.Places

/-! Directives: how one value is put into a message. -/
namespace QuoteService.Log
open Number Text

/-- What stands between a percent sign and the letter that ends a directive, and that letter. -/
structure Directive where
  leftAligned : Bool
  signed : Bool
  blank : Bool
  alternate : Bool
  zeroFilled : Bool
  width : Nat
  precision : Option Nat
  letter : Char
  deriving DecidableEq, Repr

/-- A value that is ready to be padded. Only numbers are padded with zeros, behind sign and mark. -/
structure Piece where
  sign : List Char
  mark : List Char
  body : List Char
  numeric : Bool

namespace Directive

def typeFault (message : String) : Failure := .fault .type (some message)

def letterText (d : Directive) : String := String.ofList [d.letter]

/-- The sign of a number. One that is not negative has a sign only if it is asked for. -/
def signOf (d : Directive) (negative : Bool) : List Char :=
  if negative then ['-'] else if d.signed then ['+'] else if d.blank then [' '] else []

/-- A text, cut to the precision. -/
def textPiece (d : Directive) (text : String) : Piece :=
  ⟨[], [], match d.precision with
    | some n => text.toList.take n
    | none => text.toList, false⟩

/-- A whole number in decimal, octal or hexadecimal digits, as many as the precision at least. -/
def integerPiece (d : Directive) (n : Int) : Piece :=
  let (mark, digits) := match d.letter with
    | 'o' => (['0', 'o'], Nat.toDigits 8 n.natAbs)
    | 'x' => (['0', 'x'], Nat.toDigits 16 n.natAbs)
    | 'X' => (['0', 'X'], (Nat.toDigits 16 n.natAbs).map Char.toUpper)
    | _ => ([], Nat.toDigits 10 n.natAbs)
  ⟨d.signOf (n < 0), if d.alternate then mark else [], zeroPadded (d.precision.getD 0) digits, true⟩

/-- A binary number with six places or digits, or as many as the precision. -/
def realPiece (d : Directive) (x : Binary64) : Piece :=
  let places := d.precision.getD 6
  let (negative, body) := match x with
    | .nan => (false, ['n', 'a', 'n'])
    | .infinite negative => (negative, ['i', 'n', 'f'])
    | .finite negative m e => (negative, match d.letter.toLower with
      | 'e' => scientificText d.alternate places m e
      | 'f' => fixedText d.alternate places m e
      | _ => significantText d.alternate places m e)
  ⟨d.signOf negative, [], if d.letter.isUpper then body.map Char.toUpper else body, true⟩

/-- The whole number of a value for decimal digits; the places of a binary number are dropped. -/
def wholeNumber (d : Directive) : Json → Except Failure Int
  | .real .nan => .error (.fault .value (some "cannot convert float NaN to integer"))
  | .real (.infinite _) =>
    .error (.fault .overflow (some "cannot convert float infinity to integer"))
  | .real x => .ok x.truncate
  | value =>
    match Value.integer? value with
    | some n => .ok n
    | none => .error (typeFault ("%" ++ d.letterText ++ " format: a real number is required, not " ++
        Value.kindName value))

/-- The whole number of a value for other digits. -/
def exactNumber (d : Directive) (value : Json) : Except Failure Int :=
  match Value.integer? value with
  | some n => .ok n
  | none => .error (typeFault ("%" ++ d.letterText ++ " format: an integer is required, not " ++
      Value.kindName value))

/-- The binary number nearest to a value. -/
def realNumber (value : Json) : Except Failure Binary64 :=
  match value, Value.integer? value with
  | .real x, _ => .ok x
  | _, some n =>
    let x := Binary64.nearest (n < 0) n.natAbs 1
    if x.isFinite then .ok x
    else .error (.fault .overflow (some "int too large to convert to float"))
  | _, none => .error (typeFault ("must be real number, not " ++ Value.kindName value))

/-- Half of a surrogate pair is no character of a text. -/
def surrogate : Failure := .fault .value (some "surrogates not allowed")

/-- One character, given as such or by its number. -/
def character (value : Json) : Except Failure Char :=
  match value, Value.integer? value with
  | .string text, _ =>
    match text.toList with
    | [c] => .ok c
    | _ => .error (typeFault "%c requires int or char")
  | _, some n =>
    if 0 ≤ n ∧ n < 0x110000 then
      if n.toNat.isValidChar then .ok (Char.ofNat n.toNat) else .error surrogate
    else .error (.fault .overflow (some "%c arg not in range(0x110000)"))
  | _, none => .error (typeFault "%c requires int or char")

/-- A value as a text or as decimal digits, if all numbers in it have a text. -/
def written (value : Json) (shown : String) : Except Failure String :=
  match value.refusal? .all with
  | some failure => .error failure
  | none => .ok shown

/-- A letter that ends no directive; it is shown if it is a plain one. -/
def unsupported (c : Char) (position : Nat) : Failure :=
  let shown := if 31 ≤ c.toNat && c.toNat ≤ 126 then c else '?'
  .fault .value (some ("unsupported format character '" ++ String.ofList [shown] ++ "' (0x" ++
    String.ofList (Nat.toDigits 16 c.toNat) ++ ") at index " ++ integerText position))

/-- The piece that a directive makes of a value; `position` is that of the letter. -/
def piece (d : Directive) (position : Nat) (value : Json) : Except Failure Piece :=
  match d.letter with
  | 's' => d.textPiece <$> written value (Value.plain value)
  | 'r' => d.textPiece <$> written value (Value.literal value)
  | 'a' => d.textPiece <$> written value (Value.asciiLiteral value)
  | 'd' | 'i' | 'u' => do
    let n ← d.wholeNumber value
    if isWritable n then return d.integerPiece n else .error Json.tooManyDigits
  | 'o' | 'x' | 'X' => d.integerPiece <$> d.exactNumber value
  | 'e' | 'E' | 'f' | 'F' | 'g' | 'G' => d.realPiece <$> realNumber value
  | 'c' => (fun c => ⟨[], [], [c], false⟩) <$> character value
  | c => .error (unsupported c position)

/-- Pads a piece to the width. -/
def pad (d : Directive) (p : Piece) : List Char :=
  let missing := d.width - (p.sign.length + p.mark.length + p.body.length)
  if d.leftAligned then p.sign ++ p.mark ++ p.body ++ List.replicate missing ' '
  else if d.zeroFilled && p.numeric then p.sign ++ p.mark ++ List.replicate missing '0' ++ p.body
  else List.replicate missing ' ' ++ p.sign ++ p.mark ++ p.body

/-- A value as a directive shows it. -/
def render (d : Directive) (position : Nat) (value : Json) : Except Failure (List Char) :=
  d.pad <$> d.piece position value

end Directive
end QuoteService.Log
