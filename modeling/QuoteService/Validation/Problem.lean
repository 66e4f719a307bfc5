import QuoteService.Number.IntegerText

/-! What is wrong with a value: a rule it breaks, and where. -/
namespace QuoteService
open Number

inductive Rule where
  | missing
  | integerType
  | integerForm
  | integerSize
  | wholeNumber
  | finiteNumber
  | stringType
  | shortest (length : Nat)
  | atLeast (least : Int)
  | atMost (greatest : Int)
  | choice (options : List String)
  | levelName (names : List String)
  | model (name : String)
  | list
  | unknownKey
  deriving DecidableEq, Repr

namespace Rule

def code : Rule → String
  | .missing => "missing"
  | .integerType => "int_type"
  | .integerForm => "int_parsing"
  | .integerSize => "int_parsing_size"
  | .wholeNumber => "int_from_float"
  | .finiteNumber => "finite_number"
  | .stringType => "string_type"
  | .shortest _ => "string_too_short"
  | .atLeast _ => "greater_than_equal"
  | .atMost _ => "less_than_equal"
  | .choice _ => "literal_error"
  | .levelName _ => "value_error"
  | .model _ => "model_type"
  | .list => "list_type"
  | .unknownKey => "extra_forbidden"

/-- Options in single quotes, the last one after `or`. -/
def alternatives : List String → String
  | [] => ""
  | [last] => "'" ++ last ++ "'"
  | [a, last] => "'" ++ a ++ "' or '" ++ last ++ "'"
  | a :: rest => "'" ++ a ++ "', " ++ alternatives rest

def message : Rule → String
  | .missing => "Field required"
  | .integerType => "Input should be a valid integer"
  | .integerForm => "Input should be a valid integer, unable to parse string as an integer"
  | .integerSize => "Unable to parse input string as an integer, exceeded maximum size"
  | .wholeNumber => "Input should be a valid integer, got a number with a fractional part"
  | .finiteNumber => "Input should be a finite number"
  | .stringType => "Input should be a valid string"
  | .shortest n => "String should have at least " ++ integerText n ++
      (if n = 1 then " character" else " characters")
  | .atLeast n => "Input should be greater than or equal to " ++ integerText n
  | .atMost n => "Input should be less than or equal to " ++ integerText n
  | .choice options => "Input should be " ++ alternatives options
  | .levelName names => "Value error, log_level must be one of " ++ ", ".intercalate names
  | .model name => "Input should be a valid dictionary or instance of " ++ name
  | .list => "Input should be a valid list"
  | .unknownKey => "Extra inputs are not permitted"

end Rule

/-- One step from a value to a part of it. -/
inductive PathStep where
  | member (name : String)
  | item (index : Nat)
  deriving DecidableEq, Repr

structure Problem where
  rule : Rule
  path : List PathStep
  deriving DecidableEq, Repr

end QuoteService
