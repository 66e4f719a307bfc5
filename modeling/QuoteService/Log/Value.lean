import QuoteService.Json.Basic
import QuoteService.Number.IntegerText
import QuoteService.Number.Shortest
import QuoteService.Text.Quoted

/-! How values are shown in messages. -/
namespace QuoteService.Log.Value
open Number Text

mutual

/-- A value as it is shown inside of a list. -/
def literal : Json → String
  | .null => "None"
  | .bool b => if b then "True" else "False"
  | .integer n => integerText n
  | .real x => x.text
  | .string s => quote s
  | .array items => "[" ++ ", ".intercalate (literals items) ++ "]"
  | .object members => "\x7b" ++ ", ".intercalate (memberLiterals members) ++ "\x7d"

def literals : List Json → List String
  | [] => []
  | x :: rest => literal x :: literals rest

def memberLiterals : List (String × Json) → List String
  | [] => []
  | (name, x) :: rest => (quote name ++ ": " ++ literal x) :: memberLiterals rest

end

/-- A text as it is, everything else as it is shown inside of a list. -/
def plain : Json → String
  | .string s => s
  | value => literal value

/-- As it is shown inside of a list, in ASCII alone. -/
def asciiLiteral (value : Json) : String :=
  String.ofList ((literal value).toList.flatMap fun c =>
    if c.toNat < 0x80 then [c] else escapeCode c.toNat)

/-- The word for the kind of a value. -/
def kindName : Json → String
  | .null => "NoneType"
  | .bool _ => "bool"
  | .integer _ => "int"
  | .real _ => "float"
  | .string _ => "str"
  | .array _ => "list"
  | .object _ => "dict"

/-- The whole number that a value is. -/
def integer? : Json → Option Int
  | .bool b => some (if b then 1 else 0)
  | .integer n => some n
  | _ => none

end QuoteService.Log.Value
