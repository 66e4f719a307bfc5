import QuoteService.Http.Request

/-! Routes. A path is compared with each template in order; a line feed at the end of a path is
skipped where the template has ended. -/
namespace QuoteService.Http

/-- What a path can lead to; a handle is any segment. -/
inductive Route where
  | index
  | randomQuote
  | quotesByAuthor (handle : String)
  | randomQuoteByAuthor (handle : String)
  | authors
  | tags
  deriving DecidableEq, Repr

/-- One piece of a path template. -/
inductive Segment where
  | literal (text : List Char)
  | handle

namespace Route

/-- Templates of paths. -/
inductive Template where
  | index
  | randomQuote
  | quotesByAuthor
  | randomQuoteByAuthor
  | authors
  | tags
  deriving DecidableEq, Repr

namespace Template

def segments : Template → List Segment
  | .index => [.literal "/".toList]
  | .randomQuote => [.literal "/v1/random".toList]
  | .quotesByAuthor => [.literal "/v1/author/".toList, .handle]
  | .randomQuoteByAuthor => [.literal "/v1/author/".toList, .handle, .literal "/random".toList]
  | .authors => [.literal "/v1/authors".toList]
  | .tags => [.literal "/v1/tags".toList]

/-- The route of a template and what was found in place of the handle. -/
def route (handle : String) : Template → Route
  | .index => .index
  | .randomQuote => .randomQuote
  | .quotesByAuthor => .quotesByAuthor handle
  | .randomQuoteByAuthor => .randomQuoteByAuthor handle
  | .authors => .authors
  | .tags => .tags

/-- The templates in the order in which they are tried. -/
def all : List Template :=
  [.index, .randomQuote, .quotesByAuthor, .randomQuoteByAuthor, .authors, .tags]

end Template

/-- Whether nothing is left but a line feed. -/
def isEnd : List Char → Bool
  | [] | ['\n'] => true
  | _ => false

/-- The handle found by comparing a path with segments. A handle takes all up to the next slash, and
is not empty. -/
def matchSegments : List Segment → (handle path : List Char) → Option (List Char)
  | [], handle, path => if isEnd path then some handle else none
  | .literal text :: rest, handle, path =>
    match text.isPrefixOf? path with
    | some path => matchSegments rest handle path
    | none => none
  | .handle :: rest, _, path =>
    let found := path.takeWhile (· != '/')
    if found.isEmpty then none else matchSegments rest found (path.dropWhile (· != '/'))

def Template.match? (path : String) (t : Template) : Option Route :=
  (matchSegments t.segments [] path.toList).map fun handle => t.route (String.ofList handle)

/-- The first route that fits a path. -/
def ofPath? (templates : List Template) (path : String) : Option Route :=
  templates.findSome? (Template.match? path)

end Route
end QuoteService.Http
