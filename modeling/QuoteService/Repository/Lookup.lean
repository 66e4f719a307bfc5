import QuoteService.Entity.Row

/-! The questions that a repository of quotes answers. Keys are cells: they are passed on as a row
holds them. -/
namespace QuoteService

inductive Lookup where
  | randomQuote
  | authorById (id : Json)
  | authorByHandle (handle : Json)
  | authors
  | tagIdsByQuoteId (id : Json)
  | tagById (id : Json)
  | tags
  | quotesByAuthorId (id : Json)

namespace Lookup

/-- One row or none, or a list in the order of the repository. -/
@[reducible] def Answer : Lookup → Type
  | .randomQuote | .authorById _ | .authorByHandle _ | .tagById _ => Option Row
  | .authors | .tags | .quotesByAuthorId _ => List Row
  | .tagIdsByQuoteId _ => List Json

/-- The name of an accessor, which diagnostic tags and faults refer to. -/
def name : Lookup → String
  | .randomQuote => "fetch_random_quote"
  | .authorById _ => "fetch_author_by_id"
  | .authorByHandle _ => "fetch_author_by_handle"
  | .authors => "fetch_authors"
  | .tagIdsByQuoteId _ => "fetch_tag_ids_by_quote_id"
  | .tagById _ => "fetch_tag_by_id"
  | .tags => "fetch_tags"
  | .quotesByAuthorId _ => "fetch_quotes_by_author_id"

/-- The key that is looked up. -/
def key? : Lookup → Option Json
  | .randomQuote | .authors | .tags => none
  | .authorById key | .authorByHandle key | .tagIdsByQuoteId key | .tagById key
  | .quotesByAuthorId key => some key

/-- The accessor of a name, for the key it takes. -/
def ofName? (name : String) (key : Json) : Option Lookup :=
  [.randomQuote, .authorById key, .authorByHandle key, .authors, .tagIdsByQuoteId key,
    .tagById key, .tags, .quotesByAuthorId key].find? fun q => q.name == name

/-- An answer as JSON: null, a row, or a list. -/
def answerJson : (q : Lookup) → q.Answer → Json
  | .randomQuote, row | .authorById _, row | .authorByHandle _, row | .tagById _, row =>
    row.elim .null .object
  | .authors, rows | .tags, rows | .quotesByAuthorId _, rows => .array (rows.map .object)
  | .tagIdsByQuoteId _, ids => .array ids

end Lookup

/-- A repository answers a lookup or fails. The answer may depend on how many lookups came before,
since rows are also written by others. -/
abbrev Repository := Nat → (q : Lookup) → Except Failure q.Answer

namespace Repository

/-- A repository that nobody writes to and that never fails. -/
def steady (answer : (q : Lookup) → q.Answer) : Repository :=
  fun _ q => .ok (answer q)

/-- Failures by the name of the accessor. -/
abbrev Faults := List (String × Failure)

/-- A repository whose accessors fail as told, before they look anything up. -/
def withFaults (faults : Faults) (repo : Repository) : Repository :=
  fun n q => match faults.lookup q.name with
    | some failure => .error failure
    | none => repo n q

@[simp] theorem withFaults_nil (repo : Repository) : repo.withFaults [] = repo := rfl

end Repository
end QuoteService
