/-! Requests as a server hands them over: the path is already decoded, the query is not. -/
namespace QuoteService.Http

/-- A host and a port. -/
structure Endpoint where
  host : String
  port : Int
  deriving DecidableEq, Repr

/-- A request. `host` is the header of that name, `server` the address that the request was received
at, and `client` the address it came from. -/
structure Request where
  method : String
  path : String
  query : String
  host : Option String
  scheme : String
  server : Option Endpoint
  client : Option Endpoint
  deriving DecidableEq, Repr

end QuoteService.Http
