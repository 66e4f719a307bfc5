import QuoteService.Json.Basic

/-! The entities of the service and their published shape: which members, in which order. -/
namespace QuoteService

structure Author where
  id : Int
  avatarUrl : String
  name : String
  company : String
  twitterUsername : String
  deriving DecidableEq, Repr

structure Tag where
  id : Int
  label : String
  deriving DecidableEq, Repr

/-- A quotation with its author and tags resolved. -/
structure Quote where
  id : Int
  postId : String
  author : Author
  content : String
  permalink : String
  pictureUrl : String
  tags : List Tag
  deriving DecidableEq, Repr

/-- What a client learns of a failure. -/
structure ErrorBody where
  error : String
  code : Int
  deriving DecidableEq, Repr

def Author.toJson (a : Author) : Json :=
  .object [("id", .integer a.id), ("avatar_url", .string a.avatarUrl), ("name", .string a.name),
    ("company", .string a.company), ("twitter_username", .string a.twitterUsername)]

def Tag.toJson (t : Tag) : Json :=
  .object [("id", .integer t.id), ("label", .string t.label)]

def Quote.toJson (q : Quote) : Json :=
  .object [("id", .integer q.id), ("post_id", .string q.postId), ("author", q.author.toJson),
    ("content", .string q.content), ("permalink", .string q.permalink),
    ("picture_url", .string q.pictureUrl), ("tags", .array (q.tags.map Tag.toJson))]

def ErrorBody.toJson (e : ErrorBody) : Json :=
  .object [("error", .string e.error), ("code", .integer e.code)]

end QuoteService
