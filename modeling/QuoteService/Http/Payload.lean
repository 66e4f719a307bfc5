import QuoteService.Entity.Basic
import QuoteService.Failure
import QuoteService.Http.Query
import QuoteService.Http.Response

/-! What a handler answers with: a tree that may hold more than JSON can say. It is rendered as a
whole or not at all. -/
namespace QuoteService.Http
open Number Text

inductive Payload where
  | null
  | bool (value : Bool)
  | integer (value : Int)
  | real (value : Binary64)
  | text (value : String)
  | bytes (value : List UInt8)
  | unknown
  | list (items : List Payload)
  | dict (members : List (String × Payload))

namespace Payload

mutual

def ofJson : Json → Payload
  | .null => .null
  | .bool b => .bool b
  | .integer n => .integer n
  | .real x => .real x
  | .string s => .text s
  | .array items => .list (ofItems items)
  | .object members => .dict (ofMembers members)

def ofItems : List Json → List Payload
  | [] => []
  | x :: rest => ofJson x :: ofItems rest

def ofMembers : List (String × Json) → List (String × Payload)
  | [] => []
  | (name, x) :: rest => (name, ofJson x) :: ofMembers rest

end

/-- Names that belong to the storage layer; their members are never shown. -/
def isInternalName (name : String) : Bool := "_sa".toList.isPrefixOf name.toList

/-- A value of no known kind. -/
def unknownKind : Failure :=
  .fault .value (some ("[TypeError(\"'object' object is not iterable\"), " ++
    "TypeError('vars() argument must have __dict__ attribute')]"))

mutual

/-- The JSON value of a payload: bytes are text, and internal members are left out unread. -/
def toJson : Payload → Except Failure Json
  | .null => .ok .null
  | .bool b => .ok (.bool b)
  | .integer n => .ok (.integer n)
  | .real x => .ok (.real x)
  | .text s => .ok (.string s)
  | .bytes bs =>
    match decodeUtf8? bs with
    | some cs => .ok (.string (String.ofList cs))
    | none => .error (.undecodable ((utf8Units bs).takeWhile (·.isSome)).length)
  | .unknown => .error unknownKind
  | .list items => (itemsJson items).map .array
  | .dict members => (membersJson members).map .object

def itemsJson : List Payload → Except Failure (List Json)
  | [] => .ok []
  | p :: rest => do
    let x ← p.toJson
    let xs ← itemsJson rest
    return x :: xs

def membersJson : List (String × Payload) → Except Failure (List (String × Json))
  | [] => .ok []
  | (name, p) :: rest =>
    if isInternalName name then membersJson rest
    else do
      let x ← p.toJson
      let xs ← membersJson rest
      return (name, x) :: xs

end

/-- The compact text of a payload, in the numbers of JSON. -/
def encode (p : Payload) : Except Failure String := do
  let value ← p.toJson
  value.write .compact .finite

/-- A text as the argument of the function that the query asks for, if it asks for one. -/
def wrapped (callback : Option String) (text : String) : String :=
  match callback with
  | some name => name ++ "(" ++ text ++ ")"
  | none => text

/-- A payload that cannot be encoded is a failure of the service, whatever the query. -/
def unrendered (cause : Failure) : Failure :=
  .service (.internalFailure "render_payload" (some cause) .serialization)

def render (p : Payload) (query : String) : Except Failure Response :=
  match p.encode with
  | .ok body => Response.make 200 [] (some jsonContentType) (wrapped (callback? query) body)
  | .error cause => .error (unrendered cause)

def ofAuthor (a : Author) : Payload := ofJson a.toJson
def ofTag (t : Tag) : Payload := ofJson t.toJson
def ofQuote (q : Quote) : Payload := ofJson q.toJson
def ofErrorBody (e : ErrorBody) : Payload := ofJson e.toJson

end Payload
end QuoteService.Http
