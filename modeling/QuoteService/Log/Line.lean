import QuoteService.Json.Writer
import QuoteService.Log.Record

/-! The text of a log record: a JSON object on one line, or words. The time is given, and so is how the
trace of a failure reads, since it tells of the calls that led there. -/
namespace QuoteService.Log

inductive Format where
  | json
  | text
  deriving DecidableEq, Repr

namespace Format

/-- Every name but that of the JSON format asks for words. -/
def ofName (name : String) : Format := if name = "json" then .json else .text

end Format

/-- How the traces of failures read. -/
abbrev Traces := Failure → String

namespace Record

/-- The members of a JSON line: what every record has, then the shown extras that are not null, then
the trace of the failure. -/
def members (r : Record) (time : String) (traces : Traces) (message : String) :
    List (String × Json) :=
  [("timestamp", .string time), ("level", .string r.level.name), ("logger", .string r.logger),
      ("message", .string message)] ++
    (r.fields.filter fun f => !f.2.isNull) ++
    r.failure.toList.map fun f => ("exception", .string (traces f))

def jsonLine (r : Record) (time : String) (traces : Traces) : Except Failure String := do
  let message ← r.message
  (Json.object (r.members time traces message)).write .spaced .all

/-- In words, a trace starts on a line of its own. -/
def textLine (r : Record) (time : String) (traces : Traces) : Except Failure String := do
  let message ← r.message
  let words := time ++ " " ++ r.level.name ++ " " ++ r.logger ++ " - " ++ message
  return match r.failure with
    | none => words
    | some f => (if message.toList.getLast? = some '\n' then words else words ++ "\n") ++ traces f

def line (r : Record) (time : String) (traces : Traces) : Format → Except Failure String
  | .json => r.jsonLine time traces
  | .text => r.textLine time traces

end Record
end QuoteService.Log
