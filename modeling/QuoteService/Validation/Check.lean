import QuoteService.Json.Basic
import QuoteService.Validation.Problem

/-! Checks turn JSON values into typed ones. A check of several parts reports the problems of all of
them, in the order of the parts. -/
namespace QuoteService
open Number

abbrev Checked (α : Type) := Except (List Problem) α

namespace Checked

/-- A constructor whose parts are still to be checked. -/
def build {α : Type} (f : α) : Checked α := .ok f

/-- Applies one checked part; problems of both sides add up. -/
def and {α β : Type} : Checked (α → β) → Checked α → Checked β
  | .ok f, .ok a => .ok (f a)
  | .ok _, .error ps => .error ps
  | .error ps, .ok _ => .error ps
  | .error ps, .error qs => .error (ps ++ qs)

/-- Problems of a part, seen from the whole. -/
def under {α : Type} (step : PathStep) : Checked α → Checked α
  | .ok a => .ok a
  | .error ps => .error (ps.map fun p => { p with path := step :: p.path })

def broken {α : Type} (rule : Rule) : Checked α := .error [⟨rule, []⟩]

/-- The problems found; none if the check succeeds. -/
def problems {α : Type} : Checked α → List Problem
  | .ok _ => []
  | .error ps => ps

@[simp] theorem problems_build {α : Type} (f : α) : (build f).problems = [] := rfl

@[simp] theorem problems_ok {α : Type} (a : α) : problems (.ok a) = [] := rfl

@[simp] theorem problems_and {α β : Type} (f : Checked (α → β)) (a : Checked α) :
    (f.and a).problems = f.problems ++ a.problems := by
  cases f <;> cases a <;> simp [Checked.and, problems]

theorem and_eq_ok {α β : Type} {f : Checked (α → β)} {a : Checked α} {b : β} :
    f.and a = .ok b ↔ ∃ g x, f = .ok g ∧ a = .ok x ∧ g x = b := by
  cases f <;> cases a <;> simp [Checked.and]

@[simp] theorem under_eq_ok {α : Type} {step : PathStep} {checked : Checked α} {a : α} :
    checked.under step = .ok a ↔ checked = .ok a := by
  cases checked <;> simp [Checked.under]

@[simp] theorem broken_ne_ok {α : Type} {rule : Rule} {a : α} : broken rule ≠ .ok a :=
  nofun

end Checked

namespace Check
open Checked

/-- Whole numbers come as such, as truth values, as text, or as binary numbers without a fraction and
below `2 ^ 63` in magnitude. -/
def integer : Json → Checked Int
  | .integer n => .ok n
  | .bool b => .ok (if b then 1 else 0)
  | .string s =>
    match readInteger s with
    | .ok n => .ok n
    | .error .malformed => broken .integerForm
    | .error .tooLong => broken .integerSize
  | .real x =>
    if !x.isFinite then broken .finiteNumber
    else match x.toInteger? with
      | none => broken .wholeNumber
      | some n => if n.natAbs < 0x8000000000000000 then .ok n else broken .integerSize
  | _ => broken .integerType

def text : Json → Checked String
  | .string s => .ok s
  | _ => broken .stringType

/-- A text, or null for the empty one. -/
def textOrNull : Json → Checked String
  | .null => .ok ""
  | value => text value

/-- The members of a model's object. -/
def members (model : String) : Json → Checked (List (String × Json))
  | .object members => .ok members
  | _ => broken (.model model)

/-- A member that must be there. -/
def required {α : Type} (name : String) (check : Json → Checked α)
    (members : List (String × Json)) : Checked α :=
  Checked.under (.member name) <|
    match members.lookup name with
    | some value => check value
    | none => broken .missing

/-- A member with a default, which is not checked. -/
def optional {α : Type} (name : String) (check : Json → Checked α) (default : α)
    (members : List (String × Json)) : Checked α :=
  Checked.under (.member name) <|
    match members.lookup name with
    | some value => check value
    | none => .ok default

/-- Every item of a list, from the given position on. -/
def itemsFrom {α : Type} (check : Json → Checked α) : (position : Nat) → List Json → Checked (List α)
  | _, [] => .ok []
  | position, value :: rest =>
    Checked.build List.cons
      |>.and (Checked.under (.item position) (check value))
      |>.and (itemsFrom check (position + 1) rest)

def list {α : Type} (check : Json → Checked α) : Json → Checked (List α)
  | .array items => itemsFrom check 0 items
  | _ => broken .list

end Check
end QuoteService
