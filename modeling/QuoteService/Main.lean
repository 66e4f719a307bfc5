import QuoteService.Json.Writer
import QuoteService.Launch

/-! The command. It reads the environment and the file of settings, launches the service, writes log
lines to standard error, and hands the options of the server to standard output. -/
namespace QuoteService.Command

/-- The variables of the environment that can be settings, in small letters and in capitals. -/
def environment : IO (List (String × String)) :=
  (Settings.names ++ Settings.names.map Text.upper).filterMapM fun name => do
    return (← IO.getEnv name).map fun value => (name, value)

/-- The text of the file of settings, which may be missing. -/
def settingsText : IO String := do
  try IO.FS.readFile ".env" catch _ => return ""

def optionsJson (o : ServerOptions) : Json :=
  .object [("host", .string o.host), ("port", .integer o.port),
    ("server_header", .bool o.serverHeader), ("log_level", .string o.logLevel)]

/-- Writes records as the root of all loggers does. -/
def writeRecords (root : Log.Root) (records : List Log.Record) : IO Unit :=
  records.forM fun record => do
    let time := toString (← IO.monoMsNow)
    match root.emit time Failure.traceLine record with
    | .ok lines => lines.forM IO.eprintln
    | .error failure => IO.eprintln failure.traceLine

end QuoteService.Command

open QuoteService in
def main : IO UInt32 := do
  let environment ← Command.environment
  let file := Dotenv.read environment (← Command.settingsText)
  let launch := launch .initial ⟨[], environment, file⟩
  Command.writeRecords launch.root launch.records
  match launch.run with
  | some (_, options) =>
    IO.println ((Command.optionsJson options).render .compact)
    return 0
  | none => return UInt32.ofNat (launch.exit.getD 1)
