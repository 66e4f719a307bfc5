import QuoteService.Database.Session
import QuoteService.Database.Target
import QuoteService.Log.Record

/-! The life of the service: a pool of connections is built and pinged at the start, and published only
if the ping succeeds; it is disposed of at an orderly end. -/
namespace QuoteService.Lifecycle

/-- Why a step stops: a failure, or an interruption, which no handler of failures sees. -/
inductive Stop where
  | failure (failure : Failure)
  | interruption

/-- How the steps of a start go; `none` where a step succeeds. -/
structure Conditions where
  construction : Option Failure
  session : Option Stop
  ping : Option Stop
  close : Option Stop

/-- What happens to a pool, which is known by the number of pools built before it. -/
inductive Event where
  | built (pool : Nat)
  | sessionOpened (pool : Nat)
  | pinged (pool : Nat)
  | sessionClosed (pool : Nat)
  | disposed (pool : Nat)
  deriving DecidableEq, Repr

/-- The state that outlives a run: the pool published last, and how many have been built. -/
structure App where
  published : Option Nat
  built : Nat
  deriving DecidableEq, Repr

def App.initial : App := ⟨none, 0⟩

/-- Pings in a session, if one can be opened. -/
def ping (c : Conditions) (pool : Nat) : Except Stop Unit × List Event :=
  match c.session with
  | some stop => (.error stop, [])
  | none => Session.bracket (.sessionOpened pool) (.sessionClosed pool) c.close
      (c.ping.elim (.ok ()) .error, [.pinged pool])

structure Start where
  app : App
  stopped : Option Stop
  records : List Log.Record
  events : List Event

def logger : String := "wisdom.main"

def databaseLogger : String := "wisdom.infrastructure.database"

def opening : Log.Record := .plain .info logger "Opening connection to database ..."

def pinging : Log.Record := .plain .info logger "Ping database connection ..."

def pingFailed : Log.Record := .plain .error logger "Ping database connection: failure"

def pingSucceeded : Log.Record := .plain .info logger "Ping database connection: success"

def unhealthy (failure : Failure) : Log.Record :=
  .plain .error databaseLogger ("DB health check failed: " ++ failure.text)

/-- What a health check answers, or what it lets pass; with what it tells the log, and what happened
to the pool. -/
structure Health where
  answer : Except Stop Bool
  records : List Log.Record
  events : List Event

/-- Checks a pool by a ping. A failure is told to the log and answered with no; an interruption passes
through. -/
def checkHealth (c : Conditions) (pool : Nat) : Health :=
  match ping c pool with
  | (.ok (), events) => ⟨.ok true, [], events⟩
  | (.error (.failure failure), events) => ⟨.ok false, [unhealthy failure], events⟩
  | (.error .interruption, events) => ⟨.error .interruption, [], events⟩

def pingFailure : Failure := .fault .runtime (some "Database ping failed")

/-- Starts a run. -/
def start (app : App) (c : Conditions) : Start :=
  match c.construction with
  | some failure => ⟨app, some (.failure failure), [opening], []⟩
  | none =>
    let pool := app.built
    let app := { app with built := pool + 1 }
    let health := checkHealth c pool
    let records := opening :: pinging :: health.records
    let events := .built pool :: health.events
    match health.answer with
    | .ok true =>
      ⟨{ app with published := some pool }, none, records ++ [pingSucceeded], events⟩
    | .ok false =>
      ⟨app, some (.failure pingFailure), records ++ [pingFailed], events ++ [.disposed pool]⟩
    | .error stop => ⟨app, some stop, records, events⟩

/-- How serving ends. -/
inductive Ending where
  | shutdown
  | thrown (stop : Stop)

structure Finish where
  stopped : Option Stop
  records : List Log.Record
  events : List Event

def shuttingDown : Log.Record := .plain .info logger "Wisdom API shutting down"

/-- Ends the run that serves from a pool. What is thrown into it passes by the disposal. -/
def finish (pool : Nat) : Ending → Finish
  | .shutdown => ⟨none, [shuttingDown], [.disposed pool]⟩
  | .thrown stop => ⟨some stop, [], []⟩

/-- A run from its start to its end, with all that happened to its pool. -/
def run (app : App) (c : Conditions) (ending : Ending) : App × List Event :=
  let start := start app c
  match start.stopped with
  | some _ => (start.app, start.events)
  | none => (start.app, start.events ++ (finish app.built ending).events)

/-- Options of a pool that a kind of pool does not take. -/
def poolOptions (options dialect pool : String) : Failure :=
  .fault .type (some ("Invalid argument(s) " ++ options ++
    " sent to create_engine(), using configuration " ++ dialect ++ "/" ++ pool ++
    "/Engine.  Please check that the keyword arguments are appropriate for this combination " ++
    "of components."))

/-- The refusal of a pool for a database that does not outlive its connection. -/
def noPool : Engine.Style → Failure
  | .async => poolOptions "'pool_size','max_overflow'" "SQLiteDialect_aiosqlite" "StaticPool"
  | .blocking => poolOptions "'max_overflow'" "SQLiteDialect_pysqlite" "SingletonThreadPool"

/-- The place that a pool for a URL connects to. Servers and files have pools, and only drivers that
do not block are taken. -/
def buildPool (url : String) : Except Failure Place := do
  let url ← DatabaseUrl.parse url
  let (style, place) ← url.target
  match place with
  | .server => pure ()
  | _ => if !url.isFile then .error (noPool style)
  style.requireAsync
  return place

/-- How a start goes for a URL, if nothing else happens. -/
def Conditions.ofUrl (disk : Disk) (url : String) : Conditions :=
  match buildPool url with
  | .error failure => ⟨some failure, none, none, none⟩
  | .ok place => ⟨none, none, (place.refusal? disk).map .failure, none⟩

end QuoteService.Lifecycle
