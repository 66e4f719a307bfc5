import QuoteService.Http.Exchange
import QuoteService.Log.Root
import QuoteService.Settings.Basic

/-! The launch of the service: settings are read once, logging is set up by them, and the server is
started. Invalid settings end the launch. -/
namespace QuoteService

namespace Http

/-- The service that settings describe. -/
def Service.ofSettings (s : Settings) : Service :=
  ⟨s.serverName, s.mediaType, s.docsUrl, Route.Template.all⟩

end Http

/-- What a server is told. -/
structure ServerOptions where
  host : String
  port : Int
  serverHeader : Bool
  logLevel : String
  deriving DecidableEq, Repr

/-- A launch: the server that was started, or the status of the exit; what was logged, and the state of
logging afterwards. -/
structure Launch where
  run : Option (Settings × ServerOptions)
  exit : Option Nat
  records : List Log.Record
  root : Log.Root

namespace Launch
open Number

def logger : String := "wisdom"

/-- The server does not name itself; the service does. -/
def options (s : Settings) : ServerOptions := ⟨s.host, s.port, false, Text.lower s.logLevel⟩

def rejected (problems : List Problem) : Log.Record :=
  .plain .error logger ("Invalid configuration: " ++ (Failure.invalid "Settings" problems).text)

def listening (s : Settings) : Log.Record :=
  .plain .info logger ("Listening on " ++ s.host ++ ":" ++ integerText s.port)

end Launch

/-- Launches the service. -/
def launch (root : Log.Root) (sources : Settings.Sources) : Launch :=
  match Settings.check sources with
  | .error problems =>
    let (root, _) := root.setup "INFO" "json"
    ⟨none, some 1, [Launch.rejected problems].filter root.passes, root⟩
  | .ok settings =>
    let (root, _) := root.setup settings.logLevel settings.logFormat
    ⟨some (settings, Launch.options settings), none,
      [Launch.listening settings].filter root.passes, root⟩

end QuoteService
