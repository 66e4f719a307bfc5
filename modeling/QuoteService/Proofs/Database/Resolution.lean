import QuoteService.Proofs.Database.Rows

/-! Assembly on tables, without lookups: which rows are found for an author and for a quote. -/
namespace QuoteService
namespace Tables

/-- The row of a tag. -/
def tag? (t : Tables) (id : Int64) : Option TagRow :=
  (sortedBy TagRow.id t.tags).find? fun x => id == x.id

/-- The links of a quote, in ascending order of the tags. -/
def linksOf (t : Tables) (quoteId : Int64) : List Link :=
  sortedBy Link.tagId (t.links.filter fun l => quoteId == l.quoteId)

/-- The tags of a quote; none if one of them has no row. -/
def tagsOf (t : Tables) (quoteId : Int64) : Option (List TagRow) :=
  (t.linksOf quoteId).mapM fun l => t.tag? l.tagId

/-- The row of an author. -/
def author? (t : Tables) (id : Int64) : Option AuthorRow :=
  (sortedBy AuthorRow.id t.authors).find? fun a => id == a.id

/-- The author with a handle, the lowest id of several. -/
def named? (t : Tables) (handle : String) : Option AuthorRow :=
  (sortedBy AuthorRow.id t.authors).find? fun a => a.twitterUsername == some handle

/-- The row of the quote that is drawn; none without quotes. -/
def drawn? (t : Tables) (draw : Nat) : Option QuoteRow :=
  (sortedBy QuoteRow.id t.quotes)[draw % t.quotes.length]?

/-- The rows of an author's quotes. -/
def quotesOf (t : Tables) (authorId : Int64) : List QuoteRow :=
  sortedBy QuoteRow.id (t.quotes.filter fun q => authorId == q.authorId)

/-- The quotes of an author with their tags; none if a tag has no row. -/
def resolved (t : Tables) (authorId : Int64) : Option (List (QuoteRow × List TagRow)) :=
  (t.quotesOf authorId).mapM fun q => (t.tagsOf q.id).map fun xs => (q, xs)

@[simp] theorem isRowId_word (key id : Int64) : isRowId (.integer key.toInt) id = (key == id) := by
  rw [isRowId, Key.isRowNumber_integer, Bool.eq_iff_iff]
  simp [Int64.toInt_inj]

@[simp] theorem isId_word (key id : Int64) : isId (.integer key.toInt) id = (key == id) := by
  rw [isId, Key.isNumber_integer, Bool.eq_iff_iff]
  simp [Int64.toInt_inj]

variable (t : Tables) (draw : Nat)

section Fetch

@[simp] theorem fetch_randomQuote :
    t.fetch draw .randomQuote = .ok ((t.drawn? draw).map QuoteRow.toRow) :=
  fetch_accepted t draw rfl

@[simp] theorem fetch_authors :
    t.fetch draw .authors = .ok ((sortedBy AuthorRow.id t.authors).map AuthorRow.toRow) :=
  fetch_accepted t draw rfl

@[simp] theorem fetch_tags :
    t.fetch draw .tags = .ok ((sortedBy TagRow.id t.tags).map TagRow.toRow) :=
  fetch_accepted t draw rfl

variable (id : Int64)

@[simp] theorem fetch_tagById :
    t.fetch draw (.tagById (.integer id.toInt)) = .ok ((t.tag? id).map TagRow.toRow) := by
  rw [fetch_accepted t draw (by simp [Lookup.key?])]
  simp only [answer, isRowId_word, tag?]

@[simp] theorem fetch_authorById :
    t.fetch draw (.authorById (.integer id.toInt)) = .ok ((t.author? id).map AuthorRow.toRow) := by
  rw [fetch_accepted t draw (by simp [Lookup.key?])]
  simp only [answer, isRowId_word, author?]

@[simp] theorem fetch_authorByHandle (handle : String) :
    t.fetch draw (.authorByHandle (.string handle)) =
      .ok ((t.named? handle).map AuthorRow.toRow) := by
  rw [fetch_accepted t draw rfl]
  simp only [answer, Key.isText_string, named?]

@[simp] theorem fetch_tagIdsByQuoteId :
    t.fetch draw (.tagIdsByQuoteId (.integer id.toInt)) =
      .ok ((t.linksOf id).map fun l => .integer l.tagId.toInt) := by
  rw [fetch_accepted t draw (by simp [Lookup.key?])]
  simp only [answer, isId_word, linksOf]

@[simp] theorem fetch_quotesByAuthorId :
    t.fetch draw (.quotesByAuthorId (.integer id.toInt)) =
      .ok ((t.quotesOf id).map QuoteRow.toRow) := by
  rw [fetch_accepted t draw (by simp [Lookup.key?])]
  simp only [answer, isId_word, quotesOf]

end Fetch

section Assembly

open QuoteService.Assembly

variable (caller : String)

/-- No author has the handle. -/
def unknownAuthor : Failure :=
  .service (.notFound "Author" (caller ++ ".fetch_author_by_handle") none)

/-- The author that a quote refers to has no row. -/
def missingAuthor : Failure :=
  .service (.notFound "Author" (caller ++ ".fetch_author_by_id") none)

/-- A linked tag has no row. -/
def unknownTag : Failure := .service (.notFound "Tag" (caller ++ ".fetch_tag_by_id") none)

theorem absent_authorByHandle (handle : Json) :
    absent "Author" caller (.authorByHandle handle) = unknownAuthor caller := by
  rw [absent, Lookup.name, String.append_assoc]
  rfl

theorem absent_authorById (id : Json) :
    absent "Author" caller (.authorById id) = missingAuthor caller := by
  rw [absent, Lookup.name, String.append_assoc]
  rfl

theorem absent_tagById (id : Json) : absent "Tag" caller (.tagById id) = unknownTag caller := by
  rw [absent, Lookup.name, String.append_assoc]
  rfl

theorem evaluate_tag (id : Int64) :
    (tag caller (.integer id.toInt)).evaluate (t.fetch draw) =
      (t.tag? id).elim (.error (unknownTag caller)) fun x => .ok x.entity := by
  rw [tag, Plan.evaluate_bind, Plan.evaluate_look, fetch_tagById]
  cases t.tag? id with
  | none => simp [Except.bind, present, absent_tagById]
  | some x => simp [Except.bind, present]

theorem evaluate_tagsOf (quoteId : Int64) :
    (Assembly.tagsOf caller (.integer quoteId.toInt)).evaluate (t.fetch draw) =
      (t.tagsOf quoteId).elim (.error (unknownTag caller)) fun xs => .ok (xs.map TagRow.entity) := by
  rw [Assembly.tagsOf, Plan.evaluate_bind, Plan.evaluate_look, fetch_tagIdsByQuoteId]
  simp only [Except.bind, Plan.evaluate_each, List.mapM_map, Function.comp_def, evaluate_tag,
    mapM_elim, Tables.tagsOf]

theorem evaluate_quoteBy (author : Author) (q : QuoteRow) :
    (quoteBy caller author q.toRow).evaluate (t.fetch draw) =
      (t.tagsOf q.id).elim (.error (unknownTag caller)) fun xs =>
        .ok (q.entity author (xs.map TagRow.entity)) := by
  simp only [quoteBy, Plan.evaluate_bind, Plan.evaluate_ofResult, cell_id_quoteRow, Except.bind,
    evaluate_tagsOf]
  cases t.tagsOf q.id <;> simp

theorem evaluate_authorById (id : Int64) :
    (authorById caller (.integer id.toInt)).evaluate (t.fetch draw) =
      (t.author? id).elim (.error (missingAuthor caller)) fun a => .ok a.entity := by
  rw [authorById, Plan.evaluate_bind, Plan.evaluate_look, fetch_authorById]
  cases t.author? id with
  | none => simp [Except.bind, present, absent_authorById]
  | some a => simp [Except.bind, present]

theorem evaluate_authorByHandle (handle : String) :
    (authorByHandle caller (.string handle)).evaluate (t.fetch draw) =
      (t.named? handle).elim (.error (unknownAuthor caller)) fun a => .ok a.entity := by
  rw [authorByHandle, Plan.evaluate_bind, Plan.evaluate_look, fetch_authorByHandle]
  cases t.named? handle with
  | none => simp [Except.bind, present, absent_authorByHandle]
  | some a => simp [Except.bind, present]

/-- A quote whose author is not given: the author is looked up before the tags. -/
theorem evaluate_quote (q : QuoteRow) :
    (quote caller q.toRow none).evaluate (t.fetch draw) =
      (t.author? q.authorId).elim (.error (missingAuthor caller)) fun a =>
        (t.tagsOf q.id).elim (.error (unknownTag caller)) fun xs =>
          .ok (q.entity a.entity (xs.map TagRow.entity)) := by
  simp only [quote, Plan.evaluate_bind, Plan.evaluate_ofResult, cell_authorId_quoteRow, Except.bind,
    evaluate_authorById]
  cases t.author? q.authorId <;> simp [evaluate_quoteBy]

/-- The quotes of an author, once it is known. -/
theorem evaluate_quotesOf (author : Author) (id : Int64) (same : author.id = id.toInt) :
    (Assembly.quotesOf caller author).evaluate (t.fetch draw) =
      (t.resolved id).elim (.error (unknownTag caller)) fun found =>
        .ok (found.map fun r => r.1.entity author (r.2.map TagRow.entity)) := by
  rw [Assembly.quotesOf, same, Plan.evaluate_bind, Plan.evaluate_look, fetch_quotesByAuthorId]
  simp only [Except.bind, Plan.evaluate_each, List.mapM_map, Function.comp_def, evaluate_quoteBy]
  rw [resolved, ← mapM_elim]
  congr 1
  funext q
  cases t.tagsOf q.id <;> rfl

/-- The quotes of a handle are those of its author. -/
theorem evaluate_quotesByHandle (handle : String) :
    (quotesByHandle caller (.string handle)).evaluate (t.fetch draw) =
      (t.named? handle).elim (.error (unknownAuthor caller)) fun a =>
        (t.resolved a.id).elim (.error (unknownTag caller)) fun found =>
          .ok (found.map fun r => r.1.entity a.entity (r.2.map TagRow.entity)) := by
  rw [quotesByHandle, Plan.evaluate_bind, evaluate_authorByHandle]
  cases t.named? handle with
  | none => rfl
  | some a => exact evaluate_quotesOf t draw caller a.entity a.id rfl

end Assembly
end Tables
end QuoteService
