import QuoteService.Repository.Plan

/-! Assembly of quotes: a quote is built only once its author and all its tags are known. A missing
row fails the whole plan, with a tag that names the operation and the lookup that found nothing. -/
namespace QuoteService.Assembly

/-- What a lookup that found nothing means: the resource is not found, as seen by the caller. -/
def absent (resource caller : String) (question : Lookup) : Failure :=
  .service (.notFound resource (caller ++ "." ++ question.name) none)

/-- A row that must be there. -/
def present (resource caller : String) (question : Lookup) : Option Row → Plan Row
  | some row => .done row
  | none => .fail (absent resource caller question)

def tag (caller : String) (id : Json) : Plan Tag := do
  let row ← present "Tag" caller (.tagById id) (← Plan.look (.tagById id))
  Plan.ofResult (Tag.ofRow row)

/-- The tags linked to a quote, one lookup for each. -/
def tagsOf (caller : String) (quoteId : Json) : Plan (List Tag) := do
  let ids ← Plan.look (.tagIdsByQuoteId quoteId)
  Plan.each (tag caller) ids

def authorById (caller : String) (id : Json) : Plan Author := do
  let row ← present "Author" caller (.authorById id) (← Plan.look (.authorById id))
  Plan.ofResult (Author.ofRow row)

def authorByHandle (caller : String) (handle : Json) : Plan Author := do
  let row ← present "Author" caller (.authorByHandle handle) (← Plan.look (.authorByHandle handle))
  Plan.ofResult (Author.ofRow row)

/-- The quote of a row by a known author. -/
def quoteBy (caller : String) (author : Author) (row : Row) : Plan Quote := do
  let tags ← tagsOf caller (← Plan.ofResult (row.cell "id"))
  Plan.ofResult (Quote.ofRow row author tags)

/-- The quote of a row, whose author is looked up unless it is given. -/
def quote (caller : String) (row : Row) (known : Option Author) : Plan Quote := do
  let author ← match known with
    | some author => pure author
    | none => do authorById caller (← Plan.ofResult (row.cell "author_id"))
  quoteBy caller author row

def quotesOf (caller : String) (author : Author) : Plan (List Quote) := do
  let rows ← Plan.look (.quotesByAuthorId (.integer author.id))
  Plan.each (quoteBy caller author) rows

/-- All quotes of the author with a handle. -/
def quotesByHandle (caller : String) (handle : Json) : Plan (List Quote) := do
  quotesOf caller (← authorByHandle caller handle)

def randomQuote : Plan Quote := do
  let row ← present "Quote" "random_quote" .randomQuote (← Plan.look .randomQuote)
  quote "random_quote" row none

def quotesByAuthor (handle : Json) : Plan (List Quote) :=
  quotesByHandle "quotes_by_author" handle

/-- A draw picks a position of a list that has one. -/
abbrev Draw := (length : Nat) → 0 < length → Fin length

/-- The draw that picks a given number, modulo the length. -/
def Draw.pick (n : Int) : Draw := fun length positive =>
  ⟨(n % length).toNat, by
    have := Int.emod_lt_of_pos n (Int.natCast_pos.2 positive)
    omega⟩

/-- The author has no quotes to draw from. -/
def noQuotes : Failure :=
  .service (.notFound "Quote" "random_quote_by_author.no_quotes_for_author" none)

def drawn (draw : Draw) (quotes : List Quote) : Except Failure Quote :=
  if h : 0 < quotes.length then .ok (quotes.get (draw quotes.length h)) else .error noQuotes

/-- One quote of the author with a handle. All of them are resolved before the draw. -/
def randomQuoteByAuthor (draw : Draw) (handle : Json) : Plan Quote := do
  let quotes ← quotesByHandle "random_quote_by_author" handle
  Plan.ofResult (drawn draw quotes)

def allAuthors : Plan (List Author) := do
  Plan.each (fun row => Plan.ofResult (Author.ofRow row)) (← Plan.look .authors)

def allTags : Plan (List Tag) := do
  Plan.each (fun row => Plan.ofResult (Tag.ofRow row)) (← Plan.look .tags)

end QuoteService.Assembly
