import Mathlib.Tactic.Common
import QuoteService.Database.Tables
import QuoteService.Schema.Declared

/-! Rows that fit the tables that are declared: each column has a value of its type, and null stands
only where it may. Such rows always make entities. -/
namespace QuoteService

namespace Schema

/-- The values of a type. No database at hand enforces the length of a text. -/
def ColumnType.Has : ColumnType → Json → Prop
  | .integer, value => ∃ n, value = .integer n
  | .text, value | .varchar _, value => ∃ s, value = .string s

def Column.Takes (c : Column) (value : Json) : Prop :=
  c.type.Has value ∨ c.nullable ∧ value = .null

/-- A row may have more than the columns of its table. -/
def Table.Fits (t : Table) (row : Row) : Prop :=
  ∀ c ∈ t.columns, ∃ value, row.cell c.name = .ok value ∧ c.Takes value

variable {t : Table} {row : Row} {c : Column}

theorem ColumnType.Has.text {type : ColumnType} {value : Json} (has : type.Has value)
    (other : type ≠ .integer) : ∃ s, value = .string s := by
  cases type with
  | integer => exact absurd rfl other
  | text => exact has
  | varchar n => exact has

theorem Table.Fits.required (fits : t.Fits row) (mem : c ∈ t.columns) (total : c.nullable = false) :
    ∃ value, row.cell c.name = .ok value ∧ c.type.Has value := by
  obtain ⟨value, cell, has | ⟨nullable, -⟩⟩ := fits c mem
  · exact ⟨value, cell, has⟩
  · rw [total] at nullable
    cases nullable

theorem Table.Fits.key (fits : t.Fits row) (name : String) (reference : Option Reference)
    (mem : .key name reference ∈ t.columns) : ∃ n, row.cell name = .ok (.integer n) := by
  obtain ⟨value, cell, n, rfl⟩ := fits.required mem rfl
  exact ⟨n, cell⟩

theorem Table.Fits.text (fits : t.Fits row) (name : String) (type : ColumnType)
    (mem : .required name type ∈ t.columns) (other : type ≠ .integer) :
    ∃ s, row.cell name = .ok (.string s) := by
  obtain ⟨value, cell, has⟩ := fits.required mem rfl
  obtain ⟨s, rfl⟩ := has.text other
  exact ⟨s, cell⟩

theorem Table.Fits.textOrNull (fits : t.Fits row) (name : String) (type : ColumnType)
    (mem : .optional name type ∈ t.columns) (other : type ≠ .integer) :
    ∃ o : Option String, row.cell name = .ok (.ofOption o) := by
  obtain ⟨value, cell, has | ⟨-, rfl⟩⟩ := fits _ mem
  · obtain ⟨s, rfl⟩ := has.text other
    exact ⟨some s, cell⟩
  · exact ⟨none, cell⟩

end Schema

section Entities

variable {row : Row}

theorem ofRow_of_fits_authors (fits : Schema.authors.Fits row) :
    ∃ a, Author.ofRow row = .ok a ∧ row.cell "id" = .ok (.integer a.id) := by
  obtain ⟨id, key⟩ := fits.key "id" none (by decide)
  obtain ⟨avatarUrl, avatar⟩ := fits.textOrNull "avatar_url" .text (by decide) (by decide)
  obtain ⟨name, named⟩ := fits.text "name" (.varchar 255) (by decide) (by decide)
  obtain ⟨company, works⟩ := fits.textOrNull "company" (.varchar 255) (by decide) (by decide)
  obtain ⟨handle, known⟩ := fits.textOrNull "twitter_username" (.varchar 255) (by decide) (by decide)
  refine ⟨⟨id, avatarUrl.getD "", name, company.getD "", handle.getD ""⟩, ?_, key⟩
  simp only [Author.ofRow, Row.select, key, avatar, named, works, known]
  cases avatarUrl <;> cases company <;> cases handle <;> rfl

theorem ofRow_of_fits_tags (fits : Schema.tags.Fits row) : ∃ x, Tag.ofRow row = .ok x := by
  obtain ⟨id, key⟩ := fits.key "id" none (by decide)
  obtain ⟨label, labelled⟩ := fits.text "label" (.varchar 255) (by decide) (by decide)
  refine ⟨⟨id, label⟩, ?_⟩
  simp only [Tag.ofRow, Row.select, key, labelled]
  rfl

/-- Author and tags are no columns of a quote. -/
theorem ofRow_of_fits_quotes (fits : Schema.quotes.Fits row) :
    ∃ id postId content permalink pictureUrl, row.cell "id" = .ok (.integer id) ∧
      ∀ author tags, Quote.ofRow row author tags =
        .ok ⟨id, postId, author, content, permalink, pictureUrl, tags⟩ := by
  obtain ⟨id, key⟩ := fits.key "id" none (by decide)
  obtain ⟨postId, post⟩ := fits.text "post_id" (.varchar 255) (by decide) (by decide)
  obtain ⟨content, said⟩ := fits.text "content" .text (by decide) (by decide)
  obtain ⟨permalink, link⟩ := fits.text "permalink" .text (by decide) (by decide)
  obtain ⟨pictureUrl, picture⟩ := fits.text "picture_url" .text (by decide) (by decide)
  refine ⟨id, postId, content, permalink, pictureUrl, key, fun author tags => ?_⟩
  simp only [Quote.ofRow, Row.select, key, post, said, link, picture]
  rfl

end Entities

end QuoteService
