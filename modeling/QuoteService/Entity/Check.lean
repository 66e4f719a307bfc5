import QuoteService.Entity.Basic
import QuoteService.Validation.Check

/-! Entities from JSON objects. Members that an entity does not have are ignored. -/
namespace QuoteService
open Check

def Author.check (value : Json) : Checked Author :=
  (members "Author" value).bind fun ms =>
    Checked.build Author.mk
      |>.and (required "id" integer ms)
      |>.and (optional "avatar_url" textOrNull "" ms)
      |>.and (optional "name" textOrNull "" ms)
      |>.and (optional "company" textOrNull "" ms)
      |>.and (optional "twitter_username" textOrNull "" ms)

def Tag.check (value : Json) : Checked Tag :=
  (members "Tag" value).bind fun ms =>
    Checked.build Tag.mk
      |>.and (required "id" integer ms)
      |>.and (required "label" text ms)

def Quote.check (value : Json) : Checked Quote :=
  (members "Quote" value).bind fun ms =>
    Checked.build Quote.mk
      |>.and (required "id" integer ms)
      |>.and (required "post_id" text ms)
      |>.and (required "author" Author.check ms)
      |>.and (required "content" text ms)
      |>.and (required "permalink" text ms)
      |>.and (required "picture_url" text ms)
      |>.and (optional "tags" (list Tag.check) [] ms)

def ErrorBody.check (value : Json) : Checked ErrorBody :=
  (members "ErrorBody" value).bind fun ms =>
    Checked.build ErrorBody.mk
      |>.and (required "error" text ms)
      |>.and (required "code" integer ms)

end QuoteService
