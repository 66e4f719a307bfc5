import QuoteService.Proofs.Database.Rows
import QuoteService.Proofs.Repository.Order

/-! The store over tables: its rows fit the tables that are declared, and it takes every id that it
gives as a key. -/
namespace QuoteService
open Schema

theorem AuthorRow.fits (a : AuthorRow) : authors.Fits a.toRow := by
  obtain ⟨id, _ | avatarUrl, name, _ | company, _ | handle⟩ := a <;>
    simp [Table.Fits, authors, Model.authors, Model.table, Column.key, Column.required,
      Column.optional, Row.cell, toRow, Column.Takes, ColumnType.Has, Json.ofOption, List.lookup_cons]

theorem TagRow.fits (x : TagRow) : tags.Fits x.toRow := by
  simp [Table.Fits, tags, Model.tags, Model.table, Column.key, Column.required, Row.cell, toRow,
    Column.Takes, ColumnType.Has, List.lookup_cons]

theorem QuoteRow.fits (q : QuoteRow) : quotes.Fits q.toRow := by
  simp [Table.Fits, quotes, Model.quotes, Model.table, Column.key, Column.required, Row.cell, toRow,
    Column.Takes, ColumnType.Has, List.lookup_cons]

namespace Tables

/-- The keys that a database takes. -/
def IsKey (key : Json) : Prop := Key.refusal? key = none

theorem isKey_text (s : String) : IsKey (.string s) := Key.refusal?_string s

theorem isKey_id (id : Int64) : IsKey (.integer id.toInt) := Key.refusal?_word id

/-- An answer fits if all its rows come from the rows of one table. -/
theorem fits_of_rows {α : Type} {toRow : α → Row} {key : α → Int64} {table : Table} {q : Lookup}
    {answer : q.Answer} (asked : declared.table? (tableOf q) = some table)
    (ids : q.ids answer = (q.rows answer).filterMap fun row => (row.cell "id").toOption)
    (rows : ∀ row ∈ q.rows answer, ∃ r, toRow r = row) (fits : ∀ r, table.Fits (toRow r))
    (own : ∀ r, (toRow r).cell "id" = .ok (.integer (key r).toInt)) : q.Fits IsKey answer where
  rows other mem row there := by
    obtain rfl : table = other := Option.some.inj (asked.symm.trans mem)
    obtain ⟨r, rfl⟩ := rows row there
    exact fits r
  ids id mem := by
    rw [ids] at mem
    obtain ⟨row, there, cell⟩ := List.mem_filterMap.1 mem
    obtain ⟨r, rfl⟩ := rows row there
    rw [own] at cell
    rw [← Option.some.inj cell]
    exact isKey_id (key r)

variable (t : Tables) (draw : Nat)

theorem answer_fits (q : Lookup) : q.Fits IsKey (t.answer draw q) := by
  have one {α : Type} (toRow : α → Row) (found : Option α) :
      ∀ row ∈ (found.map toRow).toList, ∃ r, toRow r = row := by
    intro row mem
    obtain ⟨r, -, same⟩ := Option.map_eq_some_iff.1 (Option.mem_toList.1 mem)
    exact ⟨r, same⟩
  have all {α : Type} (toRow : α → Row) (found : List α) :
      ∀ row ∈ found.map toRow, ∃ r, toRow r = row := by
    intro row mem
    obtain ⟨r, -, same⟩ := List.mem_map.1 mem
    exact ⟨r, same⟩
  cases q with
  | authorById | authorByHandle => exact fits_of_rows rfl rfl (one _ _) AuthorRow.fits fun _ => rfl
  | authors => exact fits_of_rows rfl rfl (all _ _) AuthorRow.fits fun _ => rfl
  | tagById => exact fits_of_rows rfl rfl (one _ _) TagRow.fits fun _ => rfl
  | tags => exact fits_of_rows rfl rfl (all _ _) TagRow.fits fun _ => rfl
  | randomQuote => exact fits_of_rows rfl rfl (one _ _) QuoteRow.fits fun _ => rfl
  | quotesByAuthorId => exact fits_of_rows rfl rfl (all _ _) QuoteRow.fits fun _ => rfl
  | tagIdsByQuoteId =>
    refine ⟨nofun, fun id mem => ?_⟩
    obtain ⟨l, -, rfl⟩ := List.mem_map.1 mem
    exact isKey_id l.tagId

theorem store_answers {q : Lookup} (takes : q.Takes IsKey) (n : Nat) :
    t.store draw n q = .ok (t.answer draw q) := by
  rw [store_eq_fetch]
  refine t.fetch_accepted draw ?_
  cases key : q.key? with
  | none => rfl
  | some k => exact takes k key

/-- All that the store gives fits. -/
theorem store_conforms : (t.store draw).Conforms IsKey := by
  intro n q a answer
  have told : t.fetch draw q = .ok a := by rwa [store_eq_fetch] at answer
  cases refused : q.key?.bind Key.refusal? with
  | some f => simp [fetch, refused] at told
  | none =>
    rw [t.fetch_accepted draw refused] at told
    rw [← Except.ok.inj told]
    exact t.answer_fits draw q

end Tables
end QuoteService
