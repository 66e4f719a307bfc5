import QuoteService.Assembly
import QuoteService.Database.Session
import QuoteService.Database.Store
import QuoteService.Http.Address
import QuoteService.Http.Payload
import QuoteService.Http.Route
import QuoteService.Log.Record

/-! Exchanges: what the service makes of a request. An exchange has the response that was sent, the
records that were logged, the failure that is passed on to the server, and what happened to the
session of the request. -/
namespace QuoteService.Http
open Number

/-- The service as it is configured, with its routes in the order in which they are tried. -/
structure Service where
  serverName : String
  mediaType : String
  docsUrl : String
  templates : List Route.Template

/-- What happens to a session. -/
inductive SessionEvent where
  | opened
  | executed (question : Lookup)
  | closed

/-- A response or none. A failure may be raised though a response was sent. -/
structure Exchange where
  response : Option Response
  records : List Log.Record
  raised : Option Failure
  events : List SessionEvent

namespace Request

/-- Who asked for what. -/
def line (r : Request) (a : Address) : String := r.remote ++ " " ++ r.method ++ " " ++ a.url

/-- A request as records show it, with the path found in its address. -/
def fields (r : Request) (a : Address) : List (String × Json) :=
  [("remote_addr", .string r.remote), ("method", .string r.method), ("path", .string a.path)]

def accessLogger : String := "wisdom.api.middleware"

def errorLogger : String := "wisdom.api.error_handlers"

/-- The record of an answered request. -/
def accessRecord (r : Request) (a : Address) (status : Int) : Log.Record :=
  ⟨.info, accessLogger, r.line a, [], r.fields a ++ [("status_code", .integer status)], none⟩

/-- The record of a request that no handler answered. -/
def unansweredRecord (r : Request) (a : Address) : Log.Record :=
  ⟨.error, accessLogger, r.line a ++ " - unhandled", [], r.fields a, none⟩

/-- The record of an error that has an answer of its own. -/
def errorRecord (r : Request) (a : Address) (e : ServiceError Failure) : Log.Record :=
  ⟨.ofSeverity e.severity, errorLogger, r.line a ++ " [" ++ e.tag ++ "] " ++ e.reason, [],
    r.fields a ++ e.fields ++ [("status_code", .integer e.status)], none⟩

/-- The service's error for a failure that nobody expected. -/
def unhandled (failure : Failure) : ServiceError Failure :=
  .internalFailure "unhandled" (some failure) .internal

/-- The record of such a failure; the failure itself is attached. -/
def failureRecord (r : Request) (a : Address) (failure : Failure) : Log.Record :=
  ⟨.error, errorLogger, "Unhandled exception on " ++ a.path ++ ": " ++ failure.text, [],
    r.fields a ++ (unhandled failure).fields, some failure⟩

end Request

/-- The error and the header fields that a failure is answered with, if it is one of the service or of
the transport. -/
def answered? : Failure → Option (ServiceError Failure × List (String × String))
  | .service e => some (e, [])
  | .http 404 _ headers => some (.routeNotFound "notFoundHandler", headers.getD [])
  | .http 405 _ headers => some (.methodNotAllowed "methodNotAllowedHandler", headers.getD [])
  | .http status detail headers =>
    some (⟨.general, detail, "httpExceptionHandler", .internal, .error, status, none⟩,
      headers.getD [])
  | _ => none

/-- How a data route computes its payload; the index needs no data. -/
def Route.plan? (draw : Assembly.Draw) : Route → Option (Plan Payload)
  | .index => none
  | .randomQuote => some do return .ofQuote (← Assembly.randomQuote)
  | .quotesByAuthor handle => some do
    return .list ((← Assembly.quotesByAuthor (.string handle)).map .ofQuote)
  | .randomQuoteByAuthor handle => some do
    return .ofQuote (← Assembly.randomQuoteByAuthor draw (.string handle))
  | .authors => some do return .list ((← Assembly.allAuthors).map .ofAuthor)
  | .tags => some do return .list ((← Assembly.allTags).map .ofTag)

/-- The outcome of a handler and what it did with its session. -/
structure Handled where
  outcome : Except Failure Response
  events : List SessionEvent

def noDatabase : Failure := .fault .runtime (some "Database not initialized")

namespace Service

def fixed (s : Service) : List (String × String) := fixedHeaders s.serverName s.mediaType

/-- Runs a plan and renders its payload. -/
def execute (statements : Statements) (query : String) (plan : Plan Payload) :
    Except Failure Response × List SessionEvent :=
  let run := plan.run (Store.repository statements)
  (run.outcome.bind fun payload => payload.render query, run.lookups.map .executed)

/-- Does so in a session of its own, which can always be opened and closed. -/
def inSession (statements : Statements) (query : String) (plan : Plan Payload) : Handled :=
  let ended := Session.bracket .opened .closed none (execute statements query plan)
  ⟨ended.1, ended.2⟩

def handleRoute (s : Service) (database : Option Statements) (draw : Assembly.Draw)
    (query : String) (route : Route) : Handled :=
  match route.plan? draw with
  | none => ⟨.ok (Response.redirect s.docsUrl), []⟩
  | some plan =>
    match database with
    | none => ⟨.error noDatabase, []⟩
    | some statements => inSession statements query plan

/-- Finds the route of a path. All routes are for GET alone. -/
def handle (s : Service) (database : Option Statements) (draw : Assembly.Draw) (r : Request) :
    Handled :=
  match Route.ofPath? s.templates r.path with
  | none => ⟨.error (.http 404 "Not Found" none), []⟩
  | some route =>
    if r.method = "GET" then s.handleRoute database draw r.query route
    else ⟨.error (.http 405 "Method Not Allowed" (some [("Allow", "GET")])), []⟩

/-- The response to a failure that has one, with the record of it; else the failure, and the record
that nobody answered. -/
def recover (r : Request) (a : Address) (failure : Failure) :
    Except Failure Response × List Log.Record :=
  match answered? failure with
  | none => (.error failure, [r.unansweredRecord a])
  | some (e, headers) =>
    match Response.ofError e headers with
    | .ok response => (.ok response, [r.errorRecord a e])
    | .error other => (.error other, [r.errorRecord a e, r.unansweredRecord a])

/-- The last resort. It answers every failure alike, and sets the fixed header fields itself. -/
def lastResort (s : Service) (r : Request) (a : Address) (records : List Log.Record)
    (events : List SessionEvent) (failure : Failure) : Exchange :=
  let records := records ++ [r.failureRecord a failure]
  match Response.ofError (Request.unhandled failure) s.fixed with
  | .ok response => ⟨some response, records, some failure, events⟩
  | .error other => ⟨none, records, some other, events⟩

/-- Serves one request: handler, answers to expected failures, fixed header fields, access record. A
request whose address cannot be read is not answered at all. -/
def serve (s : Service) (database : Option Statements) (draw : Assembly.Draw) (r : Request) :
    Exchange :=
  match r.address with
  | .error failure => ⟨none, [], some failure, []⟩
  | .ok a =>
    let handled := s.handle database draw r
    let (outcome, records) : Except Failure Response × List Log.Record :=
      match handled.outcome with
      | .ok response => (.ok response, [])
      | .error failure => recover r a failure
    match outcome with
    | .error failure => s.lastResort r a records handled.events failure
    | .ok response =>
      match response.stamp s.fixed with
      | .error failure => s.lastResort r a records handled.events failure
      | .ok response =>
        ⟨some response, records ++ [r.accessRecord a response.status], none, handled.events⟩

end Service
end QuoteService.Http
