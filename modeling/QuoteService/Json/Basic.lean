import QuoteService.Number.Binary64

/-! JSON values. Members of an object keep their order. -/
namespace QuoteService
open Number

inductive Json where
  | null
  | bool (value : Bool)
  | integer (value : Int)
  | real (value : Binary64)
  | string (value : String)
  | array (items : List Json)
  | object (members : List (String × Json))
  deriving Repr, Inhabited

namespace Json

/-- The value of a member; nothing if there is none, or no object. -/
def member? (name : String) : Json → Option Json
  | .object members => members.lookup name
  | _ => none

/-- Gives a name its value: where the name is, or at the end. -/
def putMember {α : Type} (name : String) (value : α) : List (String × α) → List (String × α)
  | [] => [(name, value)]
  | m :: rest => if m.1 = name then (name, value) :: rest else m :: putMember name value rest

/-- Members in the order in which their names come first, with the values that come last. -/
def distinct {α : Type} (members : List (String × α)) : List (String × α) :=
  members.foldl (fun ms m => putMember m.1 m.2 ms) []

def isNull : Json → Bool
  | .null => true
  | _ => false

/-- The number a scalar counts as: truth values count as zero and one. -/
def number? : Json → Option Binary64.Exact
  | .bool b => some (.ofInt (if b then 1 else 0))
  | .integer n => some (.ofInt n)
  | .real x => x.fraction?
  | _ => none

mutual

/-- Whether two values are the same. Numbers are compared by value and never equal a text; objects
hold the same members in any order. -/
def sameValue : Json → Json → Bool
  | .null, .null => true
  | .string a, .string b => a == b
  | .array xs, .array ys => sameItems xs ys
  | .object ms, .object ns => ms.length == ns.length && sameMembers ms ns
  | a, b => match a.number?, b.number? with
    | some m, some n => m.sameAs n
    | _, _ => false

def sameItems : List Json → List Json → Bool
  | [], [] => true
  | x :: xs, y :: ys => sameValue x y && sameItems xs ys
  | _, _ => false

/-- Whether all members are found among others. -/
def sameMembers : List (String × Json) → List (String × Json) → Bool
  | [], _ => true
  | (name, x) :: rest, others =>
    (match others.lookup name with
      | some y => sameValue x y
      | none => false) && sameMembers rest others

end

@[simp] theorem sameValue_string (a b : String) :
    sameValue (.string a) (.string b) = (a == b) := by simp [sameValue]

@[simp] theorem sameValue_integer (a b : Int) :
    sameValue (.integer a) (.integer b) = (a == b) := by
  simp [sameValue, number?]

end Json
end QuoteService
