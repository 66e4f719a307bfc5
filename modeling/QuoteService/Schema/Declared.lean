import QuoteService.Schema.Catalog

/-! The tables that the service declares, column by column. An index is declared at its column, and is
named after the table and the column. -/
namespace QuoteService.Schema

/-- A column as it is declared: with an index of its own or without one. -/
structure Mapped where
  column : Column
  indexed : Bool

structure Model where
  name : String
  columns : List Mapped

namespace Model

def table (m : Model) : Table := ⟨m.name, m.columns.map (·.column)⟩

def indexName (table column : String) : String := "ix_" ++ table ++ "_" ++ column

def indexes (m : Model) : List Index :=
  (m.columns.filter (·.indexed)).map fun c =>
    ⟨indexName m.name c.column.name, m.name, [c.column.name], false⟩

def authors : Model :=
  ⟨"authors", [⟨.key "id" none, false⟩, ⟨.optional "avatar_url" .text, false⟩,
    ⟨.required "name" (.varchar 255), false⟩, ⟨.optional "company" (.varchar 255), false⟩,
    ⟨.optional "twitter_username" (.varchar 255), true⟩]⟩

def tags : Model := ⟨"tags", [⟨.key "id" none, false⟩, ⟨.required "label" (.varchar 255), false⟩]⟩

def quotes : Model :=
  ⟨"quotes", [⟨.key "id" none, false⟩,
    ⟨{ Column.required "author_id" .integer with reference := some ⟨"authors", "id", none⟩ }, true⟩,
    ⟨.required "post_id" (.varchar 255), false⟩, ⟨.required "content" .text, false⟩,
    ⟨.required "permalink" .text, false⟩, ⟨.required "picture_url" .text, false⟩]⟩

def quotesTags : Model :=
  ⟨"quotes_tags", [⟨.key "quote_id" (some ⟨"quotes", "id", some "CASCADE"⟩), false⟩,
    ⟨.key "tag_id" (some ⟨"tags", "id", some "CASCADE"⟩), false⟩]⟩

def all : List Model := [authors, tags, quotes, quotesTags]

end Model

def authors : Table := Model.authors.table

def tags : Table := Model.tags.table

def quotes : Table := Model.quotes.table

def declared : Catalog := ⟨Model.all.map Model.table, Model.all.flatMap Model.indexes⟩

end QuoteService.Schema
