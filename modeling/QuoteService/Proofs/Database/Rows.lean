import Mathlib.Data.List.Sort
import QuoteService.Assembly
import QuoteService.Database.Store
import QuoteService.Proofs.Plan.Evaluation

/-! What the store finds in four tables: entities of rows, and the rows that lookups lead to. -/
namespace QuoteService

/-- The author of a row. A column that is null reads as the empty text. -/
def AuthorRow.entity (a : AuthorRow) : Author :=
  ⟨a.id.toInt, a.avatarUrl.getD "", a.name, a.company.getD "", a.twitterUsername.getD ""⟩

def TagRow.entity (x : TagRow) : Tag := ⟨x.id.toInt, x.label⟩

/-- The quote of a row, with what its relationships lead to. -/
def QuoteRow.entity (author : Author) (tags : List Tag) (q : QuoteRow) : Quote :=
  ⟨q.id.toInt, q.postId, author, q.content, q.permalink, q.pictureUrl, tags⟩

@[simp] theorem ofRow_authorRow (a : AuthorRow) : Author.ofRow a.toRow = .ok a.entity := by
  obtain ⟨id, _ | avatarUrl, name, _ | company, _ | handle⟩ := a <;> rfl

@[simp] theorem ofRow_tagRow (x : TagRow) : Tag.ofRow x.toRow = .ok x.entity := rfl

@[simp] theorem ofRow_quoteRow (q : QuoteRow) (author : Author) (tags : List Tag) :
    Quote.ofRow q.toRow author tags = .ok (q.entity author tags) := rfl

@[simp] theorem cell_id_quoteRow (q : QuoteRow) :
    Row.cell q.toRow "id" = .ok (.integer q.id.toInt) := rfl

@[simp] theorem cell_authorId_quoteRow (q : QuoteRow) :
    Row.cell q.toRow "author_id" = .ok (.integer q.authorId.toInt) := rfl

/-- A list of rows of a kind: all of them, each once, in ascending order of a key. -/
def Ascending {α : Type} (key : α → Int64) (kind : α → Prop) (rows : List α) : Prop :=
  rows.Pairwise (fun r s => key r < key s) ∧ ∀ r, r ∈ rows ↔ kind r

section Sorting

variable {α : Type} {key : α → Int64} {rows : List α}

@[simp] theorem mem_sortedBy {r : α} : r ∈ sortedBy key rows ↔ r ∈ rows := by
  simp [sortedBy]

theorem sortedBy_pairwise (key : α → Int64) (rows : List α) :
    (sortedBy key rows).Pairwise fun r s => key r ≤ key s := by
  refine (List.pairwise_mergeSort ?_ ?_ rows).imp fun h => ?_
  · intro r s u h k
    simp only [decide_eq_true_eq] at *
    exact h.trans k
  · intro r s
    simpa using le_total (key r).toInt (key s).toInt
  · simpa [Int64.le_iff_toInt_le] using h

/-- Where no two rows share a key, the order is strict. -/
theorem sortedBy_strict (unique : (rows.map key).Nodup) :
    (sortedBy key rows).Pairwise fun r s => key r < key s := by
  have distinct : ((sortedBy key rows).map key).Nodup :=
    ((List.mergeSort_perm rows _).map key).nodup_iff.2 unique
  refine ((sortedBy_pairwise key rows).and (List.pairwise_map.1 distinct)).imp fun h => ?_
  exact Int64.lt_of_le_of_ne h.1 h.2

theorem Ascending.nodup {kind : α → Prop} (h : Ascending key kind rows) :
    (rows.map fun r => (key r).toInt).Nodup := by
  refine List.pairwise_map.2 (h.1.imp fun {r s} less same => ?_)
  rw [Int64.toInt_inj.1 same] at less
  exact Int64.lt_irrefl less

/-- The first row found in ascending order is the lowest of those that fit. -/
theorem lowest_of_find?_sortedBy {p : α → Bool} {r : α}
    (found : (sortedBy key rows).find? p = some r) :
    r ∈ rows ∧ p r ∧ ∀ s ∈ rows, p s → key r ≤ key s := by
  obtain ⟨fits, before, after, split, skipped⟩ := List.find?_eq_some_iff_append.1 found
  have mem : r ∈ sortedBy key rows := split ▸ List.mem_append_right _ List.mem_cons_self
  refine ⟨mem_sortedBy.1 mem, fits, fun s mem other => ?_⟩
  have placed : s ∈ before ++ r :: after := split ▸ mem_sortedBy.2 mem
  have ordered := sortedBy_pairwise key rows
  rw [split, List.pairwise_append, List.pairwise_cons] at ordered
  rcases List.mem_append.1 placed with early | late
  · simpa [other] using skipped s early
  · rcases List.mem_cons.1 late with rfl | later
    · exact Int64.le_refl _
    · exact ordered.2.1.1 s later

theorem find?_sortedBy_eq_none {p : α → Bool} :
    (sortedBy key rows).find? p = none ↔ ∀ s ∈ rows, ¬ p s := by
  simp [List.find?_eq_none]

/-- A unique key leads to its row. -/
theorem find?_sortedBy_key (unique : (rows.map key).Nodup) {id : Int64} {r : α} :
    (sortedBy key rows).find? (fun s => id == key s) = some r ↔ r ∈ rows ∧ key r = id := by
  constructor
  · intro found
    obtain ⟨mem, same, -⟩ := lowest_of_find?_sortedBy found
    exact ⟨mem, (eq_of_beq same).symm⟩
  · rintro ⟨mem, rfl⟩
    cases found : (sortedBy key rows).find? fun s => key r == key s with
    | none => simpa using find?_sortedBy_eq_none.1 found r mem
    | some s =>
      obtain ⟨there, same, -⟩ := lowest_of_find?_sortedBy found
      rw [List.inj_on_of_nodup_map unique there mem (eq_of_beq same).symm]

theorem find?_sortedBy_key_eq_none {id : Int64} :
    (sortedBy key rows).find? (fun s => id == key s) = none ↔ ∀ s ∈ rows, key s ≠ id := by
  rw [find?_sortedBy_eq_none]
  simp only [beq_iff_eq, ne_comm, ne_eq]

end Sorting

/-- Of the items with the key of one of them, where keys are unique, there is only this one. -/
theorem filter_key_eq {α κ : Type} [DecidableEq α] [DecidableEq κ] {key : α → κ} {items : List α}
    (unique : (items.map key).Nodup) {a : α} (mem : a ∈ items) :
    items.filter (fun b => key b == key a) = [a] := by
  have same : ∀ b ∈ items, (key b == key a) = (b == a) := by
    intro b there
    rw [Bool.eq_iff_iff, beq_iff_eq, beq_iff_eq]
    exact ⟨List.inj_on_of_nodup_map unique there mem, congrArg key⟩
  rw [List.filter_congr same, List.filter_beq, List.count_eq_one_of_mem unique.of_map mem,
    List.replicate_one]

namespace Tables

/-- Primary keys are unique, and a link is its own key. -/
structure Keyed (t : Tables) : Prop where
  authors : (t.authors.map AuthorRow.id).Nodup
  tags : (t.tags.map TagRow.id).Nodup
  quotes : (t.quotes.map QuoteRow.id).Nodup
  links : t.links.Nodup

/-- The store over tables, of which no statement fails. -/
def store (t : Tables) (draw : Nat) : Repository :=
  Store.repository (Statements.onTables t draw [])

/-- What the store answers, whenever it is asked. -/
def fetch (t : Tables) (draw : Nat) (q : Lookup) : Except Failure q.Answer :=
  match q.key?.bind Key.refusal? with
  | some failure => .error (Store.reported q failure)
  | none => .ok (t.answer draw q)

variable (t : Tables) (draw : Nat)

theorem store_eq_fetch : t.store draw = fun _ q => t.fetch draw q := by
  funext n q
  simp only [store, Store.repository, Statements.onTables, Repository.withFaults_nil,
    Statements.checked, fetch]
  cases q.key?.bind Key.refusal? <;> rfl

/-- The outcome of a plan on tables. -/
theorem outcome_run_store {α : Type} (plan : Plan α) :
    (plan.run (t.store draw)).outcome = plan.evaluate (t.fetch draw) := by
  rw [store_eq_fetch]
  exact Plan.outcome_runFrom _ plan 0

theorem fetch_accepted {q : Lookup} (accepted : q.key?.bind Key.refusal? = none) :
    t.fetch draw q = .ok (t.answer draw q) := by
  simp only [fetch, accepted]

end Tables
end QuoteService
