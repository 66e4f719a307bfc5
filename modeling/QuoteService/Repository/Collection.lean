import QuoteService.Repository.Lookup

/-! A repository in memory: lists of rows, which may lack columns or hold any values. -/
namespace QuoteService

structure Collection where
  authors : List Row
  tags : List Row
  quotes : List Row
  links : List (Json × Json)
  randomId : Json

namespace Collection

def empty : Collection := ⟨[], [], [], [], .null⟩

/-- Whether a column holds a key. A missing column holds none. -/
def holds (column : String) (key : Json) (row : Row) : Bool :=
  match row.lookup column with
  | some value => value.sameValue key
  | none => false

/-- The random quote is the one with the chosen id, or the first one if none is chosen. Lists keep
their order, and a single row is the first that fits. -/
def answer (c : Collection) : (q : Lookup) → q.Answer
  | .randomQuote =>
    if c.randomId.isNull then c.quotes.head? else c.quotes.find? (holds "id" c.randomId)
  | .authorById id => c.authors.find? (holds "id" id)
  | .authorByHandle handle => c.authors.find? (holds "twitter_username" handle)
  | .authors => c.authors
  | .tagIdsByQuoteId id => (c.links.filter fun l => l.1.sameValue id).map (·.2)
  | .tagById id => c.tags.find? (holds "id" id)
  | .tags => c.tags
  | .quotesByAuthorId id => c.quotes.filter (holds "author_id" id)

def repository (c : Collection) (faults : Repository.Faults) : Repository :=
  (Repository.steady c.answer).withFaults faults

def append (c d : Collection) : Collection :=
  { c with
    authors := c.authors ++ d.authors
    tags := c.tags ++ d.tags
    quotes := c.quotes ++ d.quotes
    links := c.links ++ d.links }

/-- Keys of rows, and links, to be removed. -/
structure Removal where
  authors : List Json
  tags : List Json
  quotes : List Json
  links : List (Json × Json)

def withoutIds (ids : List Json) (rows : List Row) : List Row :=
  rows.filter fun row => !ids.any fun id => holds "id" id row

def remove (c : Collection) (r : Removal) : Collection :=
  { c with
    authors := withoutIds r.authors c.authors
    tags := withoutIds r.tags c.tags
    quotes := withoutIds r.quotes c.quotes
    links := c.links.filter fun l =>
      !r.links.any fun m => l.1.sameValue m.1 && l.2.sameValue m.2 }

end Collection
end QuoteService
