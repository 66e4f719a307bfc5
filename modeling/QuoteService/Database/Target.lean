import QuoteService.Database.Dialect
import QuoteService.Database.Options
import QuoteService.Database.Place

/-! What a database URL leads to: a place, and a way to talk to it. -/
namespace QuoteService

namespace DatabaseUrl

/-- Whether a URL names a file, which outlives its connections. -/
def isFile (url : DatabaseUrl) : Bool :=
  let name := url.database.getD ""
  name != "" && name != Place.inMemory && url.query.lookup "mode" != some ["memory"]

/-- A file has neither a user nor a host. -/
def hasAuthority (url : DatabaseUrl) : Bool :=
  let isGiven (text : Option String) : Bool := text.getD "" != ""
  isGiven url.user || isGiven url.password || isGiven url.host || url.port.getD 0 != 0

def withAuthority : Failure := .fault .databaseUrl (some "a file has no host")

/-- What a URI is given besides the options of the driver, by name. -/
def uriOptions (url : DatabaseUrl) : List (String × List String) :=
  (url.query.filter fun p => DriverOption.all.all fun o => o.name != p.1).mergeSort fun a b =>
    a.1 ≤ b.1

/-- The values of an option in a URI. -/
def valueText : List String → String
  | [value] => value
  | values => "(" ++ ", ".intercalate (values.map Text.quote) ++ ")"

/-- The name of a database as a URI. -/
def uriName (url : DatabaseUrl) : String :=
  let options := url.uriOptions.map fun p => p.1 ++ "=" ++ valueText p.2
  url.database.getD "" ++ if options.isEmpty then "" else "?" ++ "&".intercalate options

/-- The place of a database that is no server. -/
def localPlace (url : DatabaseUrl) : Except Failure Place := do
  if url.hasAuthority then .error withAuthority
  DriverOption.all.forM fun o => (url.query.lookup o.name).elim (.ok ()) o.check
  let asUri ← (url.query.lookup "uri").elim (.ok false) DriverOption.readTruth
  let name := if asUri then url.uriName else url.database.getD ""
  if name.toList.contains '\x00' then return .unusable Place.embeddedZero
  return Place.ofName asUri name

def plugin : Failure := .fault .dialect (some "no plugins")

/-- How the database of a URL answers, and where it is. The driver is loaded before the place is
looked at. -/
def target (url : DatabaseUrl) : Except Failure (Engine.Style × Place) := do
  if (url.query.lookup "plugin").isSome then .error plugin
  let engine ← url.engine
  let style ← engine.style
  return (style, ← if engine.dialect = .sqlite then url.localPlace else .ok .server)

end DatabaseUrl
end QuoteService
