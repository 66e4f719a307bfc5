import QuoteService.Migration.Initial
import QuoteService.Number.Loose
import QuoteService.Text.Word

/-! Revisions. There is one, so a database stands before it, at `base`, or at it. Targets name a
revision, a part of its name, or a number of steps from a revision or from where the database stands,
and all of them may be on the branch of a label. -/
namespace QuoteService.Migration
open Number Text

inductive Position where
  | base
  | initial
  deriving DecidableEq, Repr

inductive Direction where
  | upgrade
  | downgrade
  deriving DecidableEq, Repr

/-- Steps from a symbol, or from where the database stands. -/
structure Relative where
  label : Option String
  symbol : Option String
  steps : Int
  deriving DecidableEq, Repr

namespace Relative

/-- A symbol or none, a sign, and a number; what follows the number is ignored. -/
def ofSteps? (label : Option String) (cs : List Char) : Option Relative :=
  let symbol := cs.takeWhile isWordChar
  match cs.dropWhile isWordChar with
  | sign :: rest =>
    let digits := rest.takeWhile isDecimal
    if (sign = '+' ∨ sign = '-') ∧ digits ≠ [] then
      let n : Int := decimalValue digits
      some ⟨label, if symbol.isEmpty then none else some (String.ofList symbol),
        if sign = '-' then -n else n⟩
    else none
  | [] => none

/-- Steps behind a label, which ends at the first at sign before steps. What has been read of the
label is given from the last to the first. -/
def behindLabel? (before : List Char) : List Char → Option Relative
  | [] => none
  | c :: rest =>
    let here := if c = '@' ∧ before ≠ [] then ofSteps? (some (String.ofList before.reverse)) rest
      else none
    here <|> if c = '\n' then none else behindLabel? (c :: before) rest

def ofText? (text : String) : Option Relative :=
  behindLabel? [] text.toList <|> ofSteps? none text.toList

/-- The symbol on the branch of the label. -/
def onBranch (label : Option String) (symbol : String) : String :=
  label.elim symbol fun label => label ++ "@" ++ symbol

end Relative

namespace Position

/-- The number of revisions below a position. -/
def height : Position → Int
  | .base => 0
  | .initial => 1

def ofHeight? (n : Int) : Option Position :=
  if n = 0 then some .base else if n = 1 then some .initial else none

def unresolved {α : Type} (message : String) : Except Failure α :=
  .error (.fault .command (some message))

/-- What steps past all revisions come to. -/
def tooFar {α : Type} : Except Failure α := unresolved "Walked too far"

/-- The failure of a command that has no revision to go to. -/
def nowhere {α : Type} : Except Failure α := .error (.fault .assertion none)

/-- A label in front of the first at sign, and what follows it. -/
def cutLabel (text : String) : Option String × String :=
  let cs := text.toList
  if cs.contains '@' then
    (some (String.ofList (cs.takeWhile (· != '@'))),
      String.ofList ((cs.dropWhile (· != '@')).drop 1))
  else (none, text)

/-- Whether a text names the revision. The beginning of its name is enough. -/
def checkName (name : String) : Except Failure Unit :=
  if name = "" then nowhere
  else if name.toList.isPrefixOf Initial.revision.toList then .ok ()
  else unresolved ("Can't locate revision identified by '" ++ name ++ "'")

/-- A label is the name of a revision on the branch; an empty one is none. -/
def checkLabel : Option String → Except Failure Unit
  | none | some "" => .ok ()
  | some label => checkName label

def isHead (name : String) : Bool := name == "head" || name == "heads"

/-- Whether the revision is on the branch of what a label stands for. This takes more labels than
`checkLabel`. -/
def checkBranch (label : String) : Except Failure Unit := do
  let (outer, name) := cutLabel label
  checkLabel outer
  if name = "base" ∨ isHead name then .ok () else checkName name

/-- The position that a name stands for, with or without a label. -/
def ofName (text : String) : Except Failure Position := do
  let (label, name) := cutLabel text
  if isHead name then (label.filter (· ≠ "")).forM checkBranch
  checkLabel label
  if name = "base" then return .base
  if isHead name then return .initial
  checkName name
  return .initial

/-- So many steps up from a position. -/
def above (label : Option String) : Position → Nat → Except Failure (Option Position)
  | p, 0 => .ok (some p)
  | .initial, _ + 1 => .ok none
  | .base, n + 1 => do
    label.forM checkBranch
    above label .initial n

/-- So many steps down from a position. The way down from the base begins above the last revision. -/
def below (start : Position) (steps : Nat) : Option Position :=
  ofHeight? ((if start = .base then 2 else start.height) - steps)

/-- The position that an upgrade to a name leads to. A name that is a negative number means steps from
the last revision, of which there is none on the branch of a label. -/
def namedUpgrade (text : String) : Except Failure Position :=
  let (label, name) := cutLabel text
  if name = "base" then .ok .base
  else if (looseInteger? name).any (· < 0) then if label.isSome then .ok .base else nowhere
  else ofName text

def upgradeTarget (current : Position) (text : String) : Except Failure Position :=
  match Relative.ofText? text with
  | none => namedUpgrade text
  | some ⟨label, none, steps⟩ => do
    if steps ≤ 0 then tooFar
    label.forM checkBranch
    match ← above label current steps.toNat with
    | some goal => return goal
    | none => tooFar
  | some ⟨label, some symbol, steps⟩ => do
    let goal ←
      if 0 < steps then above label (← ofName symbol) steps.toNat
      else (fun start => below start steps.natAbs) <$> ofName (Relative.onBranch label symbol)
    if goal = some .initial then return .initial else nowhere

/-- The position that steps of a downgrade begin at, if they go down. -/
def downgradeStart (current : Position) (label : Option String) :
    Option String → Except Failure Position
  | some symbol => ofName (Relative.onBranch label symbol)
  | none =>
    match current with
    | .base => if label.isSome then nowhere else tooFar
    | .initial => do
      label.forM checkBranch
      ofName (Relative.onBranch label Initial.revision)

def downgradeTarget (current : Position) (text : String) : Except Failure Position :=
  match Relative.ofText? text with
  | none => ofName (String.ofList (text.toList.reverse.takeWhile (· != '@')).reverse)
  | some ⟨label, symbol, steps⟩ => do
    let goal ←
      if steps < 0 then
        (fun start => below start steps.natAbs) <$> downgradeStart current label symbol
      else match symbol with
        | none => tooFar
        | some symbol => above label (← ofName symbol) steps.toNat
    match goal with
    | some .base => if steps < 0 then return .base else tooFar
    | some .initial => return .initial
    | none => tooFar

/-- Where a command leads. An upgrade to a lower revision does nothing; a downgrade to a higher one is
refused. -/
def destination (direction : Direction) (current : Position) (text : String) :
    Except Failure Position :=
  match direction with
  | .upgrade => do
    let goal ← upgradeTarget current text
    return if goal.height < current.height then current else goal
  | .downgrade => do
    let goal ← downgradeTarget current text
    if current.height < goal.height then unresolved "Nothing to drop" else return goal

/-- The position that a script starts at. Only the plain name of the base stands for it. -/
def scriptStart (text : String) : Except Failure Position :=
  if text = "base" then .ok .base
  else do
    match ← ofName text with
    | .base => .error (.fault .attribute none)
    | .initial => return .initial

end Position
end QuoteService.Migration
