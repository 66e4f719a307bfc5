import QuoteService.Log.Level
import QuoteService.Log.Template

/-! Log records. -/
namespace QuoteService.Log

/-- The level of an error's record. -/
def Level.ofSeverity : Severity → Level
  | .warning => .warning
  | .error => .error

/-- A record: its message as a template, what else is known of the event, and the failure that it
reports, if any. -/
structure Record where
  level : Level
  logger : String
  template : String
  arguments : List Json
  extras : List (String × Json)
  failure : Option Failure

namespace Record

/-- The same record under the logger of a name. The empty name is that of the root of all loggers. -/
def under (logger : String) (r : Record) : Record :=
  { r with logger := if logger = "" then "root" else logger }

/-- A record with a plain message. -/
def plain (level : Level) (logger message : String) : Record :=
  ⟨level, logger, message, [], [], none⟩

def message (r : Record) : Except Failure String := fill r.template r.arguments

/-- What a log line shows beside the message, in this order. -/
def shownKeys : List String :=
  ["remote_addr", "method", "path", "status_code", "error_tag", "error_cause"]

/-- The shown extras of a record. -/
def fields (r : Record) : List (String × Json) :=
  shownKeys.filterMap fun key => (r.extras.lookup key).map fun value => (key, value)

end Record
end QuoteService.Log
