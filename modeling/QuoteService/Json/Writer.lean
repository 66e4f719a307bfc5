import QuoteService.Failure
import QuoteService.Number.Shortest

/-! The text of a JSON value: on one line, with members in order, and nothing escaped but quotes,
backslashes and controls. Not every number has a text, and a value is written whole or not at all. -/
namespace QuoteService.Json
open Number Text

/-- What stands between items and between a name and its value. -/
structure Style where
  item : List Char
  pair : List Char

/-- Responses are written without blanks. -/
def Style.compact : Style := ⟨[','], [':']⟩

/-- Log lines have a blank after each separator. -/
def Style.spaced : Style := ⟨[',', ' '], [':', ' ']⟩

def escapeChar (c : Char) : List Char :=
  if c = '\x22' then ['\\', '\x22']
  else if c = '\\' then ['\\', '\\']
  else if c = '\x08' then ['\\', 'b']
  else if c = '\x0c' then ['\\', 'f']
  else if c = '\n' then ['\\', 'n']
  else if c = '\r' then ['\\', 'r']
  else if c = '\t' then ['\\', 't']
  else if c.toNat < 0x20 then '\\' :: 'u' :: hexPadded 4 c.toNat
  else [c]

def stringText (s : String) : List Char :=
  '\x22' :: s.toList.flatMap escapeChar ++ ['\x22']

/-- A number, or the word for one that is not finite. -/
def realText : Binary64 → String
  | .nan => "NaN"
  | .infinite negative => if negative then "-Infinity" else "Infinity"
  | x => x.text

mutual

def chars (style : Style) : Json → List Char
  | .null => ['n', 'u', 'l', 'l']
  | .bool true => ['t', 'r', 'u', 'e']
  | .bool false => ['f', 'a', 'l', 's', 'e']
  | .integer n => (integerText n).toList
  | .real x => (realText x).toList
  | .string s => stringText s
  | .array items => '[' :: itemChars style items ++ [']']
  | .object members => '\x7b' :: memberChars style members ++ ['\x7d']

def itemChars (style : Style) : List Json → List Char
  | [] => []
  | [x] => chars style x
  | x :: rest => chars style x ++ style.item ++ itemChars style rest

def memberChars (style : Style) : List (String × Json) → List Char
  | [] => []
  | [(name, x)] => stringText name ++ style.pair ++ chars style x
  | (name, x) :: rest =>
    stringText name ++ style.pair ++ chars style x ++ style.item ++ memberChars style rest

end

def render (style : Style) (value : Json) : String :=
  String.ofList (value.chars style)

/-- Which numbers have a text: all that are short enough, or those of them that JSON knows. -/
inductive Numbers where
  | all
  | finite
  deriving DecidableEq, Repr

def tooManyDigits : Failure :=
  .fault .value (some ("Exceeds the limit (" ++ integerText maxDigits ++ " digits) for integer " ++
    "string conversion; use sys.set_int_max_str_digits() to increase the limit"))

def outOfRange : Failure :=
  .fault .value (some "Out of range float values are not JSON compliant")

mutual

/-- What is wrong with the first number of a value that has no text. -/
def refusal? (numbers : Numbers) : Json → Option Failure
  | .integer n => if isWritable n then none else some tooManyDigits
  | .real x => if numbers = .all || x.isFinite then none else some outOfRange
  | .array items => itemsRefusal? numbers items
  | .object members => membersRefusal? numbers members
  | _ => none

def itemsRefusal? (numbers : Numbers) : List Json → Option Failure
  | [] => none
  | x :: rest => (refusal? numbers x).or (itemsRefusal? numbers rest)

def membersRefusal? (numbers : Numbers) : List (String × Json) → Option Failure
  | [] => none
  | (_, x) :: rest => (refusal? numbers x).or (membersRefusal? numbers rest)

end

/-- The text of a value whose numbers all have one. -/
def write (style : Style) (numbers : Numbers) (value : Json) : Except Failure String :=
  match value.refusal? numbers with
  | some failure => .error failure
  | none => .ok (value.render style)

end QuoteService.Json
