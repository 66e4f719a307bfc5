import QuoteService.Failure
import QuoteService.Text.Case
import QuoteService.Text.Latin1

/-! Header fields: names in lower case, values of Latin-1 characters. -/
namespace QuoteService.Http
open Text

abbrev Header := String × String

namespace Header

/-- A text that headers can carry; the failure names the first run of characters they cannot. -/
def encoded (text : String) : Except Failure String :=
  match unencodableRun? text.toList with
  | none => .ok text
  | some (first, last) => .error (.unencodable text first last)

/-- A field as it is sent. -/
def ofPair (name value : String) : Except Failure Header := do
  let name ← encoded (lower name)
  let value ← encoded value
  return (name, value)

/-- Puts a field in place of the first of its name, without the others; at the end if there is none. -/
def put (name value : String) : List Header → List Header
  | [] => [(name, value)]
  | header :: rest =>
    if header.1 = name then (name, value) :: rest.filter fun h => h.1 ≠ name
    else header :: put name value rest

/-- Sets a field, if its name and value can be sent. -/
def set (name value : String) (headers : List Header) : Except Failure (List Header) := do
  let (name, value) ← ofPair name value
  return put name value headers

def hasName (name : String) (headers : List Header) : Bool := headers.any fun h => h.1 == name

/-- The values of a name. -/
def values (name : String) (headers : List Header) : List String :=
  (headers.filter fun h => h.1 == name).map (·.2)

theorem values_put_self (name value : String) (headers : List Header) :
    values name (put name value headers) = [value] := by
  induction headers with
  | nil => simp [values, put]
  | cons h rest ih =>
    unfold put
    split
    · simp [values, List.filter_filter]
    · rename_i other
      simpa [values, other] using ih

theorem values_put_other {name other : String} (differ : other ≠ name) (value : String)
    (headers : List Header) : values other (put name value headers) = values other headers := by
  induction headers with
  | nil => simp [values, put, Ne.symm differ]
  | cons h rest ih =>
    unfold put
    split
    · rename_i same
      have kept : rest.filter (fun h => decide (h.1 ≠ name) && (h.1 == other)) =
          rest.filter fun h => h.1 == other := by
        refine List.filter_congr fun h _ => ?_
        by_cases eq : h.1 = other
        · simp [eq, differ]
        · simp [eq]
      simp [values, same, Ne.symm differ, List.filter_filter, Bool.and_comm] at kept ⊢
      rw [kept]
    · simp only [values, List.filter_cons] at ih ⊢
      split <;> simp [ih]

end Header
end QuoteService.Http
