import QuoteService.Log.Directive

/-! Message templates. A directive starts with a percent sign and takes the next argument, or the one
that it names; two percent signs are one. Every argument must be taken, unless they have names. -/
namespace QuoteService.Log
open Number

/-- The arguments that are still to be taken. If they have names, a directive may pick one of them. -/
structure Arguments where
  named : Option (List (String × Json))
  next : List Json

namespace Arguments

/-- A single set of named arguments can be picked from; as a whole it counts as the first argument. -/
def ofList : List Json → Arguments
  | [.object (m :: ms)] => ⟨some (m :: ms), [.object (m :: ms)]⟩
  | arguments => ⟨none, arguments⟩

def tooFew : Failure := Directive.typeFault "not enough arguments for format string"

def tooMany : Failure := Directive.typeFault "not all arguments converted during string formatting"

def take (a : Arguments) : Except Failure (Json × Arguments) :=
  match a.next with
  | value :: rest => .ok (value, { a with next := rest })
  | [] => .error tooFew

/-- Makes the argument of a name the next one. -/
def pick (a : Arguments) (name : String) : Except Failure Arguments :=
  match a.named with
  | none => .error (Directive.typeFault "format requires a mapping")
  | some members =>
    match members.lookup name with
    | some value => .ok { a with next := [value] }
    | none => .error (.fault .key (some name))

/-- A number that the template leaves to an argument. -/
def takeNumber (a : Arguments) : Except Failure (Int × Arguments) := do
  let (value, a) ← a.take
  match Value.integer? value with
  | some n => .ok (n, a)
  | none => .error (Directive.typeFault "* wants int")

/-- What an argument picked by name leaves over. -/
def checkPicked (a : Arguments) : Except Failure Unit :=
  if a.named.isSome && !a.next.isEmpty then .error tooMany else .ok ()

/-- What a whole template leaves over. -/
def checkLeft (a : Arguments) : Except Failure Unit :=
  if a.named.isNone && !a.next.isEmpty then .error tooMany else .ok ()

end Arguments

namespace Template

/-- A name up to its closing parenthesis, and what follows. Parentheses may be nested. -/
def cutName : (depth : Nat) → List Char → Option (List Char × List Char)
  | _, [] => none
  | 0, ')' :: rest => some ([], rest)
  | depth, c :: rest =>
    let inner := if c = '(' then depth + 1 else if c = ')' then depth - 1 else depth
    (cutName inner rest).map fun (name, rest) => (c :: name, rest)

def readName (a : Arguments) : List Char → Except Failure (Arguments × List Char)
  | '(' :: rest =>
    match a.named, cutName 0 rest with
    | some _, none => .error (.fault .value (some "incomplete format key"))
    | some _, some (name, rest) => do return (← a.pick (String.ofList name), rest)
    | none, _ => do return (← a.pick "", rest)
  | rest => .ok (a, rest)

def isFlag (c : Char) : Bool := "-+ #0".toList.contains c

/-- A number of digits, which must not exceed a bound; zero if there is none. -/
def readDigits (what : String) (bound : Nat) (cs : List Char) :
    Except Failure (Nat × List Char) :=
  let n := digitsValue 0 (cs.takeWhile Char.isDigit)
  if n ≤ bound then .ok (n, cs.dropWhile Char.isDigit)
  else .error (.fault .value (some (what ++ " too big")))

def maxWidth : Nat := 0x7FFFFFFFFFFFFFFF

def maxPrecision : Nat := 0x7FFFFFFF

def tooLarge : Failure := .fault .overflow (some "the number is too large")

/-- The width, and whether a negative argument asks for the left side. -/
def readWidth (a : Arguments) : List Char →
    Except Failure ((Bool × Nat) × Arguments × List Char)
  | '*' :: rest => do
    let (n, a) ← a.takeNumber
    if -(maxWidth : Int) ≤ n + 1 ∧ n ≤ maxWidth then return ((n < 0, n.natAbs), a, rest)
    else .error tooLarge
  | cs => do
    let (n, rest) ← readDigits "width" maxWidth cs
    return ((false, n), a, rest)

/-- The precision behind a point; a negative argument means zero. -/
def readPrecision (a : Arguments) : List Char →
    Except Failure (Option Nat × Arguments × List Char)
  | '.' :: '*' :: rest => do
    let (n, a) ← a.takeNumber
    if -(maxPrecision : Int) ≤ n + 1 ∧ n ≤ maxPrecision then return (some n.toNat, a, rest)
    else .error tooLarge
  | '.' :: cs => do
    let (n, rest) ← readDigits "precision" maxPrecision cs
    return (some n, a, rest)
  | cs => .ok (none, a, cs)

/-- Skips one letter that once told the size of a number. -/
def skipSize : List Char → List Char
  | c :: rest => if c = 'h' ∨ c = 'l' ∨ c = 'L' then rest else c :: rest
  | [] => []

def incomplete : Failure := .fault .value (some "incomplete format")

/-- Reads a directive after its percent sign. -/
def readDirective (a : Arguments) (cs : List Char) :
    Except Failure (Directive × Arguments × List Char) := do
  let (a, cs) ← readName a cs
  let flags := cs.takeWhile isFlag
  let ((left, width), a, cs) ← readWidth a (cs.dropWhile isFlag)
  let (precision, a, cs) ← readPrecision a cs
  match skipSize cs with
  | [] => .error incomplete
  | letter :: rest =>
    return (⟨left || flags.contains '-', flags.contains '+', flags.contains ' ',
      flags.contains '#', flags.contains '0', width, precision, letter⟩, a, rest)

/-- Fills the rest of a template of `size` characters. Each character or directive takes at least one
character. -/
def fillRest (size : Nat) : (fuel : Nat) → List Char → Arguments → Except Failure (List Char)
  | 0, _, _ => .ok []
  | _ + 1, [], a => do
    a.checkLeft
    return []
  | fuel + 1, '%' :: '%' :: rest, a => do return '%' :: (← fillRest size fuel rest a)
  | fuel + 1, '%' :: rest, a => do
    let (d, a, rest) ← readDirective a rest
    let (value, a) ← a.take
    let shown ← d.render (size - rest.length - 1) value
    a.checkPicked
    return shown ++ (← fillRest size fuel rest a)
  | fuel + 1, c :: rest, a => do return c :: (← fillRest size fuel rest a)

end Template

/-- A template with its arguments put in. Without arguments it is a plain text. -/
def fill (template : String) (arguments : List Json) : Except Failure String :=
  if arguments.isEmpty then .ok template
  else
    let cs := template.toList
    (Template.fillRest cs.length (cs.length + 1) cs (Arguments.ofList arguments)).map String.ofList

end QuoteService.Log
