import QuoteService.Database.Key
import QuoteService.Repository.Lookup

/-! The four tables of the database. Rows have the types of the schema, and whole numbers have 64 bits;
references between tables are not enforced. Lists come in ascending order of their key, and of several
rows that fit the one with the lowest. -/
namespace QuoteService

structure AuthorRow where
  id : Int64
  avatarUrl : Option String
  name : String
  company : Option String
  twitterUsername : Option String
  deriving DecidableEq, Repr

structure TagRow where
  id : Int64
  label : String
  deriving DecidableEq, Repr

structure QuoteRow where
  id : Int64
  authorId : Int64
  postId : String
  content : String
  permalink : String
  pictureUrl : String
  deriving DecidableEq, Repr

structure Link where
  quoteId : Int64
  tagId : Int64
  deriving DecidableEq, Repr

structure Tables where
  authors : List AuthorRow
  tags : List TagRow
  quotes : List QuoteRow
  links : List Link
  deriving DecidableEq, Repr

/-- A text column that may be null. -/
def Json.ofOption (value : Option String) : Json := value.elim .null .string

def AuthorRow.toRow (a : AuthorRow) : Row :=
  [("id", .integer a.id.toInt), ("avatar_url", .ofOption a.avatarUrl), ("name", .string a.name),
    ("company", .ofOption a.company), ("twitter_username", .ofOption a.twitterUsername)]

def TagRow.toRow (t : TagRow) : Row := [("id", .integer t.id.toInt), ("label", .string t.label)]

def QuoteRow.toRow (q : QuoteRow) : Row :=
  [("id", .integer q.id.toInt), ("author_id", .integer q.authorId.toInt),
    ("post_id", .string q.postId), ("content", .string q.content), ("permalink", .string q.permalink),
    ("picture_url", .string q.pictureUrl)]

/-- Ascending order of a key. -/
def sortedBy {α : Type} (key : α → Int64) (rows : List α) : List α :=
  rows.mergeSort fun a b => (key a).toInt ≤ (key b).toInt

namespace Tables

def empty : Tables := ⟨[], [], [], []⟩

/-- A key against the ids of the rows themselves. -/
def isRowId (key : Json) (id : Int64) : Bool := Key.isRowNumber key id.toInt

/-- A key against a column that holds ids of other rows. -/
def isId (key : Json) (id : Int64) : Bool := Key.isNumber key id.toInt

/-- The rows of each statement. The random quote is the one at the drawn position, modulo the number
of quotes. -/
def answer (t : Tables) (draw : Nat) : (q : Lookup) → q.Answer
  | .randomQuote =>
    ((sortedBy QuoteRow.id t.quotes)[draw % t.quotes.length]?).map QuoteRow.toRow
  | .authorById key =>
    ((sortedBy AuthorRow.id t.authors).find? fun a => isRowId key a.id).map AuthorRow.toRow
  | .authorByHandle key =>
    ((sortedBy AuthorRow.id t.authors).find? fun a => Key.isText key a.twitterUsername).map
      AuthorRow.toRow
  | .authors => (sortedBy AuthorRow.id t.authors).map AuthorRow.toRow
  | .tagIdsByQuoteId key =>
    (sortedBy Link.tagId (t.links.filter fun l => isId key l.quoteId)).map fun l =>
      .integer l.tagId.toInt
  | .tagById key => ((sortedBy TagRow.id t.tags).find? fun x => isRowId key x.id).map TagRow.toRow
  | .tags => (sortedBy TagRow.id t.tags).map TagRow.toRow
  | .quotesByAuthorId key =>
    (sortedBy QuoteRow.id (t.quotes.filter fun q => isId key q.authorId)).map QuoteRow.toRow

/-- The table that a statement reads. -/
def tableOf : Lookup → String
  | .randomQuote | .quotesByAuthorId _ => "quotes"
  | .authorById _ | .authorByHandle _ | .authors => "authors"
  | .tagIdsByQuoteId _ => "quotes_tags"
  | .tagById _ | .tags => "tags"

def append (t u : Tables) : Tables :=
  ⟨t.authors ++ u.authors, t.tags ++ u.tags, t.quotes ++ u.quotes, t.links ++ u.links⟩

/-- Ids of rows, and links, to be deleted. -/
structure Deletion where
  authors : List Int64
  tags : List Int64
  quotes : List Int64
  links : List Link

def delete (t : Tables) (d : Deletion) : Tables :=
  ⟨t.authors.filter fun a => !d.authors.contains a.id,
    t.tags.filter fun x => !d.tags.contains x.id,
    t.quotes.filter fun q => !d.quotes.contains q.id,
    t.links.filter fun l => !d.links.contains l⟩

end Tables
end QuoteService
