import QuoteService.Migration.Statement

/-! The first revision: it makes all tables of the service, and unmakes them in the opposite order. -/
namespace QuoteService.Migration.Initial
open Schema

def revision : String := "001_initial"

def upgrade : List Statement :=
  [.createTable ⟨"authors",
      [⟨"id", .integer, false, true, none⟩,
        ⟨"avatar_url", .text, true, false, none⟩,
        ⟨"name", .varchar 255, false, false, none⟩,
        ⟨"company", .varchar 255, true, false, none⟩,
        ⟨"twitter_username", .varchar 255, true, false, none⟩]⟩,
    .createIndex ⟨"ix_authors_twitter_username", "authors", ["twitter_username"], false⟩,
    .createTable ⟨"tags",
      [⟨"id", .integer, false, true, none⟩,
        ⟨"label", .varchar 255, false, false, none⟩]⟩,
    .createTable ⟨"quotes",
      [⟨"id", .integer, false, true, none⟩,
        ⟨"author_id", .integer, false, false, some ⟨"authors", "id", none⟩⟩,
        ⟨"post_id", .varchar 255, false, false, none⟩,
        ⟨"content", .text, false, false, none⟩,
        ⟨"permalink", .text, false, false, none⟩,
        ⟨"picture_url", .text, false, false, none⟩]⟩,
    .createIndex ⟨"ix_quotes_author_id", "quotes", ["author_id"], false⟩,
    .createTable ⟨"quotes_tags",
      [⟨"quote_id", .integer, false, true, some ⟨"quotes", "id", some "CASCADE"⟩⟩,
        ⟨"tag_id", .integer, false, true, some ⟨"tags", "id", some "CASCADE"⟩⟩]⟩]

def downgrade : List Statement :=
  [.dropTable "quotes_tags", .dropIndex "ix_quotes_author_id" "quotes", .dropTable "quotes",
    .dropTable "tags", .dropIndex "ix_authors_twitter_username" "authors", .dropTable "authors"]

end QuoteService.Migration.Initial
