import QuoteService.Proofs.Schema.Rows

/-! Repositories that give the same rows, each in an order of its own, which may be another one each
time. -/
namespace QuoteService

namespace Lookup

/-- The rows of an answer. Ids alone are no rows. -/
def rows : (q : Lookup) → q.Answer → List Row
  | .randomQuote, row | .authorById _, row | .authorByHandle _, row | .tagById _, row => row.toList
  | .authors, rows | .tags, rows | .quotesByAuthorId _, rows => rows
  | .tagIdsByQuoteId _, _ => []

/-- The ids in an answer, which are the keys of later lookups. -/
def ids : (q : Lookup) → q.Answer → List Json
  | .tagIdsByQuoteId _, ids => ids
  | q, answer => (q.rows answer).filterMap fun row => (row.cell "id").toOption

/-- Answers that differ in the order of a list alone. One random quote is as good as another. -/
def Reordered : (q : Lookup) → q.Answer → q.Answer → Prop
  | .randomQuote, _, _ => True
  | .authorById _, row, other | .authorByHandle _, row, other | .tagById _, row, other => row = other
  | .authors, rows, others | .tags, rows, others | .quotesByAuthorId _, rows, others =>
    rows.Perm others
  | .tagIdsByQuoteId _, ids, others => ids.Perm others

/-- The key of a lookup, if it has one, is of a kind. -/
def Takes (keys : Json → Prop) (q : Lookup) : Prop := ∀ key ∈ q.key?, keys key

/-- The rows of an answer fit the table that is asked, and its ids are keys of a kind. -/
structure Fits (keys : Json → Prop) (q : Lookup) (answer : q.Answer) : Prop where
  rows : ∀ table ∈ Schema.declared.table? (Tables.tableOf q), ∀ row ∈ q.rows answer, table.Fits row
  ids : ∀ id ∈ q.ids answer, keys id

variable {q : Lookup} {a b c : q.Answer} {keys : Json → Prop}

theorem takes_of_key {key : Json} (own : q.key? = some key) (known : keys key) : q.Takes keys := by
  intro other mem
  rw [← Option.some.inj (own.symm.trans mem)]
  exact known

theorem Reordered.symm (h : q.Reordered a b) : q.Reordered b a := by
  cases q with
  | randomQuote => trivial
  | authorById | authorByHandle | tagById => exact Eq.symm h
  | authors | tags | quotesByAuthorId | tagIdsByQuoteId => exact List.Perm.symm h

theorem Reordered.trans (h : q.Reordered a b) (k : q.Reordered b c) : q.Reordered a c := by
  cases q with
  | randomQuote => trivial
  | authorById | authorByHandle | tagById => exact Eq.trans h k
  | authors | tags | quotesByAuthorId | tagIdsByQuoteId => exact List.Perm.trans h k

/-- No row, or an empty list. -/
def nothing : (q : Lookup) → q.Answer
  | .randomQuote | .authorById _ | .authorByHandle _ | .tagById _ => none
  | .authors | .tags | .quotesByAuthorId _ => []
  | .tagIdsByQuoteId _ => []

/-- An answer with its list in the opposite order. -/
def backward : (q : Lookup) → q.Answer → q.Answer
  | .randomQuote, row | .authorById _, row | .authorByHandle _, row | .tagById _, row => row
  | .authors, rows | .tags, rows | .quotesByAuthorId _, rows => rows.reverse
  | .tagIdsByQuoteId _, ids => ids.reverse

theorem reordered_backward (a : q.Answer) : q.Reordered a (q.backward a) := by
  cases q with
  | randomQuote => trivial
  | authorById | authorByHandle | tagById => rfl
  | authors | tags | quotesByAuthorId | tagIdsByQuoteId => exact (List.reverse_perm a).symm

end Lookup

namespace Repository

variable {keys : Json → Prop} {repo other : Repository}

/-- All that a repository gives fits. -/
def Conforms (keys : Json → Prop) (repo : Repository) : Prop :=
  ∀ n q a, repo n q = .ok a → q.Fits keys a

/-- Neither repository fails at a key of the kind, and they give the same rows. -/
def Reordered (keys : Json → Prop) (repo other : Repository) : Prop :=
  ∀ n m q, q.Takes keys → ∃ a b, repo n q = .ok a ∧ other m q = .ok b ∧ q.Reordered a b

/-- A repository that gives the rows of a content, all of which fit, in any order. -/
structure Presents (keys : Json → Prop) (content : (q : Lookup) → q.Answer) (repo : Repository) :
    Prop where
  answered : ∀ n q, q.Takes keys → ∃ a, repo n q = .ok a ∧ q.Reordered (content q) a
  fits : ∀ q : Lookup, q.Takes keys → q.Fits keys (content q)

/-- What a repository gives at first. -/
def content (repo : Repository) (q : Lookup) : q.Answer := (repo 0 q).toOption.getD q.nothing

theorem content_eq {q : Lookup} {a : q.Answer} (answer : repo 0 q = .ok a) : repo.content q = a := by
  rw [content, answer]
  rfl

/-- Repositories that differ in order alone present one content. -/
theorem Reordered.presents (reordered : repo.Reordered keys other) (conforms : repo.Conforms keys) :
    repo.Presents keys repo.content ∧ other.Presents keys repo.content := by
  have fits (q : Lookup) (takes : q.Takes keys) : q.Fits keys (repo.content q) := by
    obtain ⟨a, -, first, -⟩ := reordered 0 0 q takes
    rw [content_eq first]
    exact conforms 0 q a first
  have others (n : Nat) (q : Lookup) (takes : q.Takes keys) :
      ∃ b, other n q = .ok b ∧ q.Reordered (repo.content q) b := by
    obtain ⟨a, b, first, second, same⟩ := reordered 0 n q takes
    rw [content_eq first]
    exact ⟨b, second, same⟩
  refine ⟨⟨fun n q takes => ?_, fits⟩, others, fits⟩
  -- each answer is compared with the content by way of the other repository
  obtain ⟨a, b, later, second, same⟩ := reordered n 0 q takes
  obtain ⟨c, third, alike⟩ := others 0 q takes
  obtain rfl : b = c := Except.ok.inj (second.symm.trans third)
  exact ⟨a, later, alike.trans same.symm⟩

/-- The repository that gives every list in the opposite order. -/
def backward (repo : Repository) : Repository := fun n q => (repo n q).map q.backward

/-- A repository that always gives the same and its opposite differ in order alone. -/
theorem reordered_backward {answer : (q : Lookup) → q.Answer}
    (steady : ∀ n q, q.Takes keys → repo n q = .ok (answer q)) :
    repo.Reordered keys repo.backward := by
  intro n m q takes
  refine ⟨answer q, q.backward (answer q), steady n q takes, ?_, Lookup.reordered_backward _⟩
  rw [backward, steady m q takes]
  rfl

end Repository
end QuoteService
