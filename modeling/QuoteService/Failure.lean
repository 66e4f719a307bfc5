import QuoteService.Entity.Basic
import QuoteService.Text.Quoted
import QuoteService.Validation.Problem

/-! Failures: what can go wrong, what a client learns of it, and what operators read in the logs. -/
namespace QuoteService
open Number Text

inductive Severity where
  | warning
  | error
  deriving DecidableEq, Repr

inductive Category where
  | resourceNotFound
  | routeNotFound
  | methodNotAllowed
  | database
  | serialization
  | internal
  deriving DecidableEq, Repr

/-- The kinds of a service's own error. -/
inductive ErrorKind where
  | general
  | notFound
  | routeNotFound
  | methodNotAllowed
  | internalFailure
  deriving DecidableEq, Repr

/-- The kinds of failure that others raise. -/
inductive FaultKind where
  | system
  | value
  | runtime
  | key
  | type
  | storage
  | operational
  | databaseUrl
  | driver
  | dialect
  | command
  | overflow
  | missingModule
  | assertion
  | attribute
  | binding
  deriving DecidableEq, Repr

/-- A failure of the service itself. `message` and `status` are public; `tag` names the call site and
`cause` what lay under it, for the logs alone. -/
structure ServiceError (Cause : Type) where
  kind : ErrorKind
  message : String
  tag : String
  category : Category
  severity : Severity
  status : Int
  cause : Option Cause

/-- What can go wrong. Others' failures come with their own words, in a text and in a diagnostic. -/
inductive Failure where
  | service (error : ServiceError Failure)
  | reported (kind : FaultKind) (text diagnostic : String)
  | http (status : Int) (detail : String) (headers : Option (List (String × String)))
  | invalid (model : String) (problems : List Problem)
  | unencodable (value : String) (first last : Nat)
  | undecodable (position : Nat)

def FaultKind.name : FaultKind → String
  | .system => "OSError"
  | .value => "ValueError"
  | .runtime => "RuntimeError"
  | .key => "KeyError"
  | .type => "TypeError"
  | .storage => "SQLAlchemyError"
  | .operational => "OperationalError"
  | .databaseUrl => "ArgumentError"
  | .driver => "InvalidRequestError"
  | .dialect => "NoSuchModuleError"
  | .command => "CommandError"
  | .overflow => "OverflowError"
  | .missingModule => "ModuleNotFoundError"
  | .assertion => "AssertionError"
  | .attribute => "AttributeError"
  | .binding => "ProgrammingError"

/-- Failures of the database layer, which the store reports as its own. -/
def FaultKind.isStorage : FaultKind → Bool
  | .storage | .operational | .databaseUrl | .driver | .dialect | .binding => true
  | _ => false

/-- A failure that carries nothing but a message. -/
def Failure.fault (kind : FaultKind) : (message : Option String) → Failure
  | some message => .reported kind (if kind = .key then quote message else message)
      (kind.name ++ "(" ++ quote message ++ ")")
  | none => .reported kind (if kind.isStorage then "()" else "") (kind.name ++ "()")

def Severity.name : Severity → String
  | .warning => "warning"
  | .error => "error"

def Category.name : Category → String
  | .resourceNotFound => "resource_not_found"
  | .routeNotFound => "route_not_found"
  | .methodNotAllowed => "method_not_allowed"
  | .database => "database"
  | .serialization => "serialization"
  | .internal => "internal"

def Severity.all : List Severity := [.warning, .error]

def Category.all : List Category :=
  [.resourceNotFound, .routeNotFound, .methodNotAllowed, .database, .serialization, .internal]

def Severity.ofName (name : String) : Except Failure Severity :=
  match Severity.all.find? (·.name == name) with
  | some s => .ok s
  | none => .error (.fault .value (some (quote name ++ " is not a valid ErrorSeverity")))

def Category.ofName (name : String) : Except Failure Category :=
  match Category.all.find? (·.name == name) with
  | some c => .ok c
  | none => .error (.fault .value (some (quote name ++ " is not a valid ErrorCategory")))

def ErrorKind.name : ErrorKind → String
  | .general => "WisdomError"
  | .notFound => "NotFoundError"
  | .routeNotFound => "RouteNotFoundError"
  | .methodNotAllowed => "MethodNotAllowedError"
  | .internalFailure => "InternalFailure"

namespace ServiceError

variable {Cause : Type}

/-- The same text for every internal failure. -/
def genericMessage : String :=
  "OOOOOPPPSSSS! error happen. don't panic! we will be back soon :)"

def notFound (resource tag : String) (cause : Option Cause) : ServiceError Cause :=
  ⟨.notFound, resource ++ " not found", tag, .resourceNotFound, .warning, 404, cause⟩

def routeNotFound (tag : String) : ServiceError Cause :=
  ⟨.routeNotFound, "Not Found", tag, .routeNotFound, .warning, 404, none⟩

def methodNotAllowed (tag : String) : ServiceError Cause :=
  ⟨.methodNotAllowed, "Method Not Allowed", tag, .methodNotAllowed, .warning, 405, none⟩

def internalFailure (tag : String) (cause : Option Cause) (category : Category) :
    ServiceError Cause :=
  ⟨.internalFailure, genericMessage, tag, category, .error, 500, cause⟩

/-- What the client gets: message and status, and nothing of tag and cause. -/
def body (e : ServiceError Cause) : ErrorBody := ⟨e.message, e.status⟩

end ServiceError

namespace Failure

def name : Failure → String
  | .service e => e.kind.name
  | .reported kind .. => kind.name
  | .http .. => "HTTPException"
  | .invalid .. => "ValidationError"
  | .unencodable .. => "UnicodeEncodeError"
  | .undecodable _ => "UnicodeDecodeError"

/-- The name with the package of its class, where it has one. -/
def qualifiedName (f : Failure) : String :=
  match f with
  | .service e => "wisdom.core.errors." ++ e.kind.name
  | .reported kind .. =>
    match kind with
    | .storage | .operational | .databaseUrl | .driver | .dialect | .binding =>
      "sqlalchemy.exc." ++ kind.name
    | .command => "alembic.util.exc." ++ kind.name
    | _ => kind.name
  | .http .. => "starlette.exceptions." ++ f.name
  | .invalid .. => "pydantic_core._pydantic_core." ++ f.name
  | .unencodable .. | .undecodable _ => f.name

/-- Which characters of a text have no byte, in words. -/
def unencodableText (value : String) (first last : Nat) : String :=
  let place :=
    if last = first + 1 then
      let shown := ((value.toList.drop first).take 1).flatMap fun c => escapeCode c.toNat
      "character '" ++ String.ofList shown ++ "' in position " ++ integerText first
    else "characters in position " ++ integerText first ++ "-" ++ integerText ((last : Int) - 1)
  "'latin-1' codec can't encode " ++ place ++ ": ordinal not in range(256)"

/-- The failure in words, as it stands at the end of a log line. -/
def text : Failure → String
  | .service e => e.message
  | .reported _ text _ => text
  | .http status detail _ => integerText status ++ ": " ++ detail
  | .invalid model problems =>
    integerText problems.length ++
      (if problems.length = 1 then " validation error for " else " validation errors for ") ++ model
  | .unencodable value first last => unencodableText value first last
  | .undecodable position => "'utf-8' codec can't decode byte in position " ++ integerText position

/-- The failure with its name and its arguments, as logs carry it for a cause. -/
def diagnostic (f : Failure) : String :=
  match f with
  | .service e => f.name ++ "(" ++ quote e.message ++ ")"
  | .reported _ _ diagnostic => diagnostic
  | .http status detail _ =>
    f.name ++ "(status_code=" ++ integerText status ++ ", detail=" ++ quote detail ++ ")"
  | .invalid .. => f.text
  | .unencodable value first last =>
    f.name ++ "('latin-1', " ++ quote value ++ ", " ++ integerText first ++ ", " ++
      integerText last ++ ", 'ordinal not in range(256)')"
  | .undecodable position => f.name ++ "(" ++ integerText position ++ ")"

/-- The last line of a failure's trace: its name, and its text if there is one. -/
def traceLine (f : Failure) : String :=
  if f.text = "" then f.qualifiedName else f.qualifiedName ++ ": " ++ f.text

def isStorage : Failure → Bool
  | .reported kind .. => kind.isStorage
  | _ => false

end Failure

namespace ServiceError

/-- The tag and the cause of an error, for the logs. -/
def fields (e : ServiceError Failure) : List (String × Json) :=
  [("error_tag", .string e.tag), ("error_cause", (e.cause.map Failure.diagnostic).elim .null .string)]

/-- The cause in words, or the public message if there is none. -/
def reason (e : ServiceError Failure) : String := (e.cause.map Failure.text).getD e.message

end ServiceError
end QuoteService
