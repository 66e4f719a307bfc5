import QuoteService.Database.Url
import QuoteService.Log.Level
import QuoteService.Settings.Sources
import QuoteService.Text.Blank
import QuoteService.Validation.Check

/-! The settings of the service. Each one is checked by itself, whatever the others are; the problems
of all are reported, in the order of the settings, then the unknown names. -/
namespace QuoteService
open Text

structure Settings where
  host : String
  port : Int
  databaseUrl : String
  databasePoolSize : Int
  databaseMaxOverflow : Int
  docsUrl : String
  serverName : String
  mediaType : String
  logLevel : String
  logFormat : String
  deriving DecidableEq, Repr

namespace Settings

/-- The names of the settings in order. -/
def names : List String :=
  ["host", "port", "database_url", "database_pool_size", "database_max_overflow", "docs_url",
    "server_name", "media_type", "log_level", "log_format"]

/-- The levels that a service can run at. -/
def levelNames : List String := ["CRITICAL", "ERROR", "WARNING", "INFO", "DEBUG"]

def formatNames : List String := ["json", "text"]

/-- A port that a server can listen at. -/
def checkPort (value : Json) : Checked Int :=
  (Check.integer value).bind fun n =>
    if n < 1 then Checked.broken (.atLeast 1)
    else if 65535 < n then Checked.broken (.atMost 65535)
    else .ok n

/-- A database URL, which names an asynchronous driver once it is checked. -/
def checkDatabaseUrl (value : Json) : Checked String :=
  (Check.text value).bind fun url =>
    let url := DatabaseUrl.withAsyncDriver url
    if url.isEmpty then Checked.broken (.shortest 1) else .ok url

/-- The name of a level in capitals and without spacing around it; WARN is short for WARNING. -/
def levelName (text : String) : String :=
  let name := upper (String.ofList (trim isSpacing text.toList))
  if name = "WARN" then "WARNING" else name

def checkLogLevel : Json → Checked String
  | .string text =>
    if levelNames.contains (levelName text) then .ok (levelName text)
    else Checked.broken (.levelName levelNames)
  | _ => Checked.broken (.levelName levelNames)

def checkLogFormat : Json → Checked String
  | .string text =>
    if formatNames.contains text then .ok text else Checked.broken (.choice formatNames)
  | _ => Checked.broken (.choice formatNames)

/-- One setting. Defaults are not checked. -/
def field {α : Type} (s : Sources) (name : String) (check : Json → Checked α)
    (default : Option α) : Checked α :=
  Checked.under (.member name) <|
    match s.raw? name, default with
    | some value, _ => check value
    | none, some value => .ok value
    | none, none => Checked.broken .missing

/-- All settings, whatever else the sources hold. -/
def known (s : Sources) : Checked Settings :=
  Checked.build Settings.mk
    |>.and (field s "host" Check.text (some "0.0.0.0"))
    |>.and (field s "port" checkPort none)
    |>.and (field s "database_url" checkDatabaseUrl none)
    |>.and (field s "database_pool_size" Check.integer (some 20))
    |>.and (field s "database_max_overflow" Check.integer (some 10))
    |>.and (field s "docs_url" Check.text (some "http://gophergala.github.io/wisdom"))
    |>.and (field s "server_name" Check.text (some "Wisdom powered by Gophergala"))
    |>.and (field s "media_type" Check.text (some "wisdom.V1"))
    |>.and (field s "log_level" checkLogLevel (some "INFO"))
    |>.and (field s "log_format" checkLogFormat (some "json"))

/-- Names that are no settings are refused. -/
def noneUnknown (s : Sources) : Checked Unit :=
  match s.unknown names with
  | [] => .ok ()
  | unknown => .error (unknown.map fun name => ⟨.unknownKey, [.member name]⟩)

def check (s : Sources) : Checked Settings :=
  Checked.build (fun settings _ => settings)
    |>.and (known s)
    |>.and (noneUnknown s)

def toJson (s : Settings) : Json :=
  .object [("host", .string s.host), ("port", .integer s.port),
    ("database_url", .string s.databaseUrl), ("database_pool_size", .integer s.databasePoolSize),
    ("database_max_overflow", .integer s.databaseMaxOverflow), ("docs_url", .string s.docsUrl),
    ("server_name", .string s.serverName), ("media_type", .string s.mediaType),
    ("log_level", .string s.logLevel), ("log_format", .string s.logFormat)]

end Settings
end QuoteService
