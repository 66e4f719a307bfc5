import QuoteService.Http.Header
import QuoteService.Json.Writer
import QuoteService.Text.Percent

/-! Responses and their header fields. A body is sent as UTF-8; its length counts bytes. -/
namespace QuoteService.Http
open Number Text

structure Response where
  status : Int
  headers : List Header
  body : String
  deriving DecidableEq, Repr

def jsonContentType : String := "application/json; charset=utf-8"

namespace Response

def byteLength (body : String) : Nat := (encodeUtf8 body.toList).length

/-- Responses with these statuses have no body to measure. -/
def isBodiless (status : Int) : Bool := status < 200 || status == 204 || status == 304

/-- A response with fields of its own. The length and the type of the body are added where these do
not give them. -/
def make (status : Int) (own : List (String × String)) (contentType : Option String)
    (body : String) : Except Failure Response := do
  let own ← own.mapM fun h => Header.ofPair h.1 h.2
  let length :=
    if Header.hasName "content-length" own || isBodiless status then []
    else [("content-length", integerText (byteLength body))]
  let type :=
    if Header.hasName "content-type" own then []
    else contentType.toList.map fun t => ("content-type", t)
  return ⟨status, own ++ length ++ type, body⟩

def setHeader (name value : String) (r : Response) : Except Failure Response := do
  return { r with headers := ← Header.set name value r.headers }

/-- Characters that a location keeps. -/
def isLocationChar (c : Char) : Bool :=
  c.isAlphanum || "_.-~:/%#?=@[]!$&'()*+,;".toList.contains c

/-- The text of a location: all other characters are escaped byte by byte. -/
def locationText (url : String) : String :=
  String.ofList (percentEncode isLocationChar url.toList)

def redirect (url : String) : Response :=
  ⟨302, [("content-length", "0"), ("location", locationText url)], ""⟩

/-- The answer to an error: its public part, under its own status. -/
def ofError {Cause : Type} (e : ServiceError Cause) (own : List (String × String)) :
    Except Failure Response := do
  let body ← e.body.toJson.write .compact .all
  make e.status own (some jsonContentType) body

end Response

/-- The fields that every response carries. -/
def fixedHeaders (serverName mediaType : String) : List (String × String) :=
  [("Server", serverName), ("X-Wisdom-Media-Type", mediaType), ("Content-Type", jsonContentType)]

namespace Response

/-- Sets the fixed fields, in order; the first that cannot be sent fails all. -/
def stamp (fixed : List (String × String)) (r : Response) : Except Failure Response :=
  fixed.foldlM (fun r h => r.setHeader h.1 h.2) r

end Response
end QuoteService.Http
