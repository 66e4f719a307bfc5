import QuoteService.Database.Url
import QuoteService.Text.Case

/-! Options of database URLs that tell the driver how to connect. -/
namespace QuoteService
open Number Text

/-- The options that a driver takes out of a URL. -/
inductive DriverOption where
  | uri
  | timeout
  | isolationLevel
  | detectTypes
  | checkSameThread
  | cachedStatements
  deriving DecidableEq, Repr

namespace DriverOption

def name : DriverOption → String
  | .uri => "uri"
  | .timeout => "timeout"
  | .isolationLevel => "isolation_level"
  | .detectTypes => "detect_types"
  | .checkSameThread => "check_same_thread"
  | .cachedStatements => "cached_statements"

/-- All options, in the order in which they are read. -/
def all : List DriverOption :=
  [.uri, .timeout, .isolationLevel, .detectTypes, .checkSameThread, .cachedStatements]

def trueWords : List String := ["true", "yes", "on", "y", "t", "1"]

def falseWords : List String := ["false", "no", "off", "n", "f", "0"]

/-- A truth value in words. Several values are true. -/
def readTruth : List String → Except Failure Bool
  | [text] =>
    let word := lower (String.ofList (trim isSpacing text.toList))
    if trueWords.contains word then .ok true
    else if falseWords.contains word then .ok false
    else .error (.fault .value (some ("String is not true/false: " ++ quote word)))
  | _ => .ok true

def notReal (text : String) : Failure :=
  .fault .value (some ("could not convert string to float: " ++ quote text))

/-- A number must have one value. -/
def severalValues (taker takes : String) : Failure :=
  .fault .type (some (taker ++ "() argument must be a string" ++ takes ++ ", not 'tuple'"))

def checkReal : List String → Except Failure Unit
  | [text] => if isLooseReal text then .ok () else .error (notReal text)
  | _ => .error (severalValues "float" " or a real number")

def checkWhole : List String → Except Failure Unit
  | [text] =>
    if (looseInteger? text).isSome then .ok () else .error (DatabaseUrl.notANumber text)
  | _ => .error (severalValues "int" ", a bytes-like object or a real number")

/-- Whether an option has a value of its kind. -/
def check (o : DriverOption) (values : List String) : Except Failure Unit :=
  match o with
  | .uri | .checkSameThread => (readTruth values).map fun _ => ()
  | .timeout => checkReal values
  | .isolationLevel => .ok ()
  | .detectTypes | .cachedStatements => checkWhole values

end DriverOption

end QuoteService
