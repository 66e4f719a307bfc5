import QuoteService.Text.Latin1
import QuoteService.Text.Percent
import QuoteService.Text.Split

/-! Query strings. A query arrives as bytes, each read as one character; pairs are split at `&` and at
their first `=`, and both sides are decoded. -/
namespace QuoteService.Http
open Text

namespace Query

/-- The query as it arrives: one character for each byte of its UTF-8 form. -/
def received (query : String) : List Char := decodeLatin1 (encodeUtf8 query.toList)

/-- The decoded pairs of a query in order. Empty pieces are no pairs. -/
def pairs (query : String) : List (List Char × List Char) :=
  ((splitOn '&' (received query)).filter fun piece => !piece.isEmpty).map fun piece =>
    (queryDecode (cutPair piece).1, queryDecode (cutPair piece).2)

/-- The value of a name; the last of several. -/
def value? (query : String) (name : String) : Option (List Char) :=
  (pairs query).reverse.lookup name.toList

end Query

/-- The function name that a query asks for: `callback` before `jsonp`; an empty name is none. -/
def callback? (query : String) : Option String :=
  match Query.value? query "callback", Query.value? query "jsonp" with
  | some (c :: cs), _ => some (String.ofList (c :: cs))
  | _, some (c :: cs) => some (String.ofList (c :: cs))
  | _, _ => none

end QuoteService.Http
