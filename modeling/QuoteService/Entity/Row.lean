import QuoteService.Entity.Check
import QuoteService.Failure

/-! Rows, as a repository gives them, and the entities they make. A row is read column by column in a
fixed order; the first missing column is reported before any value is checked. -/
namespace QuoteService

abbrev Row := List (String × Json)

/-- A failed check as a failure of its model. -/
def Checked.validated {α : Type} (model : String) : Checked α → Except Failure α
  | .ok a => .ok a
  | .error ps => .error (.invalid model ps)

namespace Row

def cell (row : Row) (name : String) : Except Failure Json :=
  match row.lookup name with
  | some value => .ok value
  | none => .error (.fault .key (some name))

/-- The named columns of a row, and no others. -/
def select (row : Row) : List String → Except Failure Row
  | [] => .ok []
  | name :: rest => do
    let value ← row.cell name
    let others ← select row rest
    .ok ((name, value) :: others)

end Row

def Author.ofRow (row : Row) : Except Failure Author := do
  let cells ← row.select ["id", "avatar_url", "name", "company", "twitter_username"]
  Checked.validated "Author" (Author.check (.object cells))

def Tag.ofRow (row : Row) : Except Failure Tag := do
  let cells ← row.select ["id", "label"]
  Checked.validated "Tag" (Tag.check (.object cells))

/-- A quote from its own columns and what they refer to. -/
def Quote.ofRow (row : Row) (author : Author) (tags : List Tag) : Except Failure Quote := do
  let cells ← row.select ["id", "post_id", "content", "permalink", "picture_url"]
  Checked.validated "Quote" <|
    Checked.build (fun id postId content permalink pictureUrl =>
        (⟨id, postId, author, content, permalink, pictureUrl, tags⟩ : Quote))
      |>.and (Check.required "id" Check.integer cells)
      |>.and (Check.required "post_id" Check.text cells)
      |>.and (Check.required "content" Check.text cells)
      |>.and (Check.required "permalink" Check.text cells)
      |>.and (Check.required "picture_url" Check.text cells)

end QuoteService
