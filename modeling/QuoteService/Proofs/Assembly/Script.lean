import Mathlib
import QuoteService.Proofs.Database.Conformance
import QuoteService.Proofs.Plan.Script

/-! The script of the quotes of an author: the author, the rows, and for each row its tags. The answers
need not agree with one another, nor with what was answered before. -/
namespace QuoteService

/-- A quote has the author and the tags that it was made with. -/
theorem Quote.ofRow_parts {row : Row} {author : Author} {tags : List Tag} {quote : Quote}
    (made : Quote.ofRow row author tags = .ok quote) :
    quote.author = author ∧ quote.tags = tags := by
  simp only [Quote.ofRow, bind, Except.bind] at made
  split at made
  · cases made
  · rename_i cells read
    generalize parts : Checked.and _ _ = checked at made
    cases checked with
    | error problems => cases made
    | ok found =>
      obtain rfl : found = quote := Except.ok.inj made
      simp only [Checked.and_eq_ok, Checked.build] at parts
      obtain ⟨_, pictureUrl, ⟨_, permalink, ⟨_, content, ⟨_, postId, ⟨_, id, ⟨⟩, -, rfl⟩, -, rfl⟩, -,
        rfl⟩, -, rfl⟩, -, rfl⟩ := parts
      exact ⟨rfl, rfl⟩

/-- A row without its key is not read at all. -/
theorem Quote.ofRow_of_cell_error {row : Row} {f : Failure} (none : row.cell "id" = .error f)
    (author : Author) (tags : List Tag) : Quote.ofRow row author tags = .error f := by
  simp only [Quote.ofRow, Row.select, none]
  rfl

namespace Repository
open Assembly

/-- Rows that fit their tables can be read. -/
theorem Conforms.readable {keys : Json → Prop} {repo : Repository} (conforms : repo.Conforms keys) :
    repo.Readable := by
  intro n q a answer row mem f unread
  have fits := (conforms n q a answer).rows
  cases q with
  | randomQuote | quotesByAuthorId =>
    obtain ⟨author, tags, failed⟩ := unread
    obtain ⟨_, _, _, _, _, -, made⟩ := ofRow_of_fits_quotes (fits _ rfl row mem)
    rw [made] at failed
    cases failed
  | authorById | authorByHandle | authors =>
    obtain ⟨author, made, -⟩ := ofRow_of_fits_authors (fits _ rfl row mem)
    exact absurd (made.symm.trans unread) (by simp)
  | tagById | tags =>
    obtain ⟨tag, made⟩ := ofRow_of_fits_tags (fits _ rfl row mem)
    exact absurd (made.symm.trans unread) (by simp)
  | tagIdsByQuoteId => exact unread

/-- The lookups for the tags of a quote: their ids, and a row for each. -/
def tagCalls (repo : Repository) (n : Nat) (quoteId : Json) : List Lookup :=
  .tagIdsByQuoteId quoteId :: (repo.heard n (.tagIdsByQuoteId quoteId)).map .tagById

/-- The lookups for the quote of a row. -/
def rowCalls (repo : Repository) (n : Nat) (row : Row) : List Lookup :=
  match row.cell "id" with
  | .ok id => repo.tagCalls n id
  | .error _ => []

/-- The lookups for the quotes of the author with a handle. -/
def agenda (repo : Repository) (handle : Json) : List Lookup :=
  .authorByHandle handle ::
    match (repo.heard 0 (.authorByHandle handle)).bind fun row => (Author.ofRow row).toOption with
    | none => []
    | some author =>
      .quotesByAuthorId (.integer author.id) ::
        callsFrom repo.rowCalls 2 (repo.heard 1 (.quotesByAuthorId (.integer author.id)))

/-- The author is never looked up again. -/
theorem not_mem_agenda (repo : Repository) (handle id : Json) :
    Lookup.authorById id ∉ repo.agenda handle := by
  have others (n : Nat) (row : Row) : Lookup.authorById id ∉ repo.rowCalls n row := by
    unfold rowCalls tagCalls
    split <;> simp
  intro mem
  obtain first | rest := List.mem_cons.1 mem
  · cases first
  · split at rest
    · cases rest
    · obtain second | later := List.mem_cons.1 rest
      · cases second
      · obtain ⟨n, row, -, call⟩ := mem_callsFrom later
        exact others n row call

/-- A tag from the row that was answered for its id. -/
def IsTag (repo : Repository) (n : Nat) (id : Json) (tag : Tag) : Prop :=
  ∃ row, repo n (.tagById id) = .ok (some row) ∧ Tag.ofRow row = .ok tag

/-- The tags of a quote, one for each id that was answered and in the same order. -/
def AreTags (repo : Repository) (n : Nat) (quoteId : Json) (tags : List Tag) : Prop :=
  ∃ ids, repo n (.tagIdsByQuoteId quoteId) = .ok ids ∧
    Gathered (fun _ id => [.tagById id]) repo.IsTag (n + 1) ids tags

/-- The quote of a row, with the tags that were answered for it. -/
structure IsQuote (repo : Repository) (author : Author) (n : Nat) (row : Row) (quote : Quote) :
    Prop where
  made : Quote.ofRow row author quote.tags = .ok quote
  author : quote.author = author
  tags : ∃ id, row.cell "id" = .ok id ∧ repo.AreTags n id quote.tags

end Repository

namespace Assembly
open Plan Repository

variable {repo : Repository} {caller : String} {n : Nat} {given : Failure → Prop}

theorem follows_tag (id : Json) :
    Follows repo caller n [.tagById id] (repo.IsTag n id) given (runFrom repo n (tag caller id)) := by
  refine follows_ask (fun found none => ?_) fun found answer there => ?_
  · subst none
    rfl
  · obtain ⟨row, rfl⟩ := Option.ne_none_iff_exists'.1 there
    exact ⟨Tag.ofRow row, rfl, fun x made => ⟨row, answer, made⟩,
      fun f unread => ⟨row, List.mem_singleton_self row, unread⟩⟩

theorem follows_authorByHandle (handle : Json) :
    Follows repo caller n [.authorByHandle handle]
      (fun author => ∃ row, repo n (.authorByHandle handle) = .ok (some row) ∧
        Author.ofRow row = .ok author)
      given (runFrom repo n (authorByHandle caller handle)) := by
  refine follows_ask (fun found none => ?_) fun found answer there => ?_
  · subst none
    rfl
  · obtain ⟨row, rfl⟩ := Option.ne_none_iff_exists'.1 there
    exact ⟨Author.ofRow row, rfl, fun x made => ⟨row, answer, made⟩,
      fun f unread => ⟨row, List.mem_singleton_self row, unread⟩⟩

theorem follows_tagsOf (quoteId : Json) :
    Follows repo caller n (repo.tagCalls n quoteId) (repo.AreTags n quoteId) given
      (runFrom repo n (tagsOf caller quoteId)) := by
  change Follows repo caller n ([.tagIdsByQuoteId quoteId] ++
    (repo.heard n (.tagIdsByQuoteId quoteId)).map .tagById) _ _ _
  refine (follows_look fun _ => id).bind (fun ids answer => ?_) fun f => .inl
  rw [heard_eq answer, ← callsFrom_singleton Lookup.tagById (n + 1)]
  have all : Follows repo caller (n + 1) (callsFrom (fun _ id => [.tagById id]) (n + 1) ids)
      (Gathered _ repo.IsTag (n + 1) ids) given (runFrom repo (n + 1) (each (tag caller) ids)) :=
    follows_each fun id _ m => follows_tag id
  exact all.mono (fun tags gathered => ⟨ids, answer, gathered⟩) fun f => id

theorem follows_quoteBy (author : Author) (row : Row) :
    Follows repo caller n (repo.rowCalls n row) (repo.IsQuote author n row)
      (fun f => ∃ author tags, Quote.ofRow row author tags = .error f)
      (runFrom repo n (quoteBy caller author row)) := by
  unfold quoteBy rowCalls
  cases key : row.cell "id" with
  | error f =>
    exact .misread rfl trivial (.inl ⟨author, [], Quote.ofRow_of_cell_error key author []⟩)
  | ok id =>
    change Follows repo caller n (repo.tagCalls n id) _ _ (runFrom repo n
      (tagsOf caller id >>= fun tags => ofResult (Quote.ofRow row author tags)))
    rw [← List.append_nil (repo.tagCalls n id)]
    refine (follows_tagsOf id).bind (fun tags tagged => ?_) fun f => .inl
    refine (follows_ofResult _).mono (fun quote made => ?_) fun f unread => ⟨author, tags, unread⟩
    obtain ⟨rfl, rfl⟩ := Quote.ofRow_parts made
    exact ⟨made, rfl, id, key, tagged⟩

theorem follows_quotesOf (author : Author) :
    Follows repo caller n (.quotesByAuthorId (.integer author.id) ::
        callsFrom repo.rowCalls (n + 1) (repo.heard n (.quotesByAuthorId (.integer author.id))))
      (fun quotes => ∃ rows, repo n (.quotesByAuthorId (.integer author.id)) = .ok rows ∧
        Gathered repo.rowCalls (repo.IsQuote author) (n + 1) rows quotes)
      given (runFrom repo n (quotesOf caller author)) := by
  change Follows repo caller n ([.quotesByAuthorId (.integer author.id)] ++ callsFrom repo.rowCalls
    (n + 1) (repo.heard n (.quotesByAuthorId (.integer author.id)))) _ _ _
  refine (follows_look fun _ => id).bind (fun rows answer => ?_)
    fun f (unread : ∃ row ∈ repo.heard n (.quotesByAuthorId (.integer author.id)),
      ∃ author tags, Quote.ofRow row author tags = .error f) => .inr (.inl unread)
  rw [heard_eq answer]
  have all : Follows repo caller (n + 1) (callsFrom repo.rowCalls (n + 1) rows)
      (Gathered repo.rowCalls (repo.IsQuote author) (n + 1) rows)
      (fun f => ∃ row ∈ rows, ∃ author tags, Quote.ofRow row author tags = .error f)
      (runFrom repo (n + 1) (each (quoteBy caller author) rows)) :=
    follows_each fun row mem m =>
      (follows_quoteBy author row).mono (fun _ => id) fun f unread => ⟨row, mem, unread⟩
  exact all.mono (fun quotes gathered => ⟨rows, answer, gathered⟩) fun f => id

/-- A run for the quotes of an author keeps to the agenda. -/
theorem follows_quotesByHandle (handle : Json) :
    Follows repo caller 0 (repo.agenda handle)
      (fun quotes => ∃ row author rows, repo 0 (.authorByHandle handle) = .ok (some row) ∧
        Author.ofRow row = .ok author ∧
        repo 1 (.quotesByAuthorId (.integer author.id)) = .ok rows ∧
        Gathered repo.rowCalls (repo.IsQuote author) 2 rows quotes)
      given ((quotesByHandle caller handle).run repo) := by
  unfold agenda
  rw [← List.singleton_append]
  refine (follows_authorByHandle handle).bind (fun author named => ?_) fun f => .inl
  obtain ⟨row, answer, made⟩ := named
  -- the agenda goes on with the author that was heard, which is the one that was read
  have known : ((repo.heard 0 (.authorByHandle handle)).bind fun row => (Author.ofRow row).toOption) =
      some author := by
    rw [heard_eq answer, Option.bind_some, made]
    rfl
  rw [known]
  refine (follows_quotesOf author).mono (fun quotes found => ?_) fun f => id
  obtain ⟨rows, listed, gathered⟩ := found
  exact ⟨row, author, rows, answer, made, listed, gathered⟩

/-- The quotes of an author, whatever a repository answers. Their lookups are those of the agenda: to
its end, and then there is a quote for each row, with the author of the first answer and the tags of
its own answers; or up to the first lookup that is refused, whose failure is then the outcome; or up to
a row that is no entity at all. -/
theorem quotesByAuthor_script (repo : Repository) (handle : Json) :
    let run := (quotesByAuthor handle).run repo
    let agenda := repo.agenda handle
    (∀ id, Lookup.authorById id ∉ run.lookups) ∧
    ((∃ row author rows quotes, run = ⟨.ok quotes, agenda⟩ ∧ repo.Answered 0 agenda ∧
      repo 0 (.authorByHandle handle) = .ok (some row) ∧ Author.ofRow row = .ok author ∧
      repo 1 (.quotesByAuthorId (.integer author.id)) = .ok rows ∧ quotes.length = rows.length ∧
      Gathered repo.rowCalls (repo.IsQuote author) 2 rows quotes) ∨
    (∃ before q after f, agenda = before ++ q :: after ∧ repo.Answered 0 before ∧
      repo.Refuses "quotes_by_author" before.length q f ∧ run = ⟨.error f, before ++ [q]⟩) ∨
    (¬ repo.Readable ∧ ∃ before after f, agenda = before ++ after ∧ repo.Answered 0 before ∧
      repo.Misread 0 before f ∧ run = ⟨.error f, before⟩)) := by
  intro run agenda
  have follows : Follows repo "quotes_by_author" 0 agenda _ (fun _ => False) run :=
    follows_quotesByHandle handle
  refine ⟨fun id mem => not_mem_agenda repo handle id (follows.lookups_prefix.subset mem), ?_⟩
  generalize run = run at follows
  cases follows with
  | @finished quotes answered found =>
    obtain ⟨row, author, rows, named, made, listed, gathered⟩ := found
    exact .inl ⟨row, author, rows, quotes, rfl, answered, named, made, listed, gathered.length_eq,
      gathered⟩
  | @refused before after q f split answered refusal =>
    rw [Nat.zero_add] at refusal
    exact .inr (.inl ⟨before, q, after, f, split, answered, refusal, rfl⟩)
  | @misread before after f split answered reason =>
    have unread := reason.resolve_left id
    exact .inr (.inr ⟨fun readable => readable.not_misread before f unread, before, after, f, split,
      answered, unread, rfl⟩)

/-- The tags are deleted by somebody else once the ids of a quote are read. -/
theorem quotesByAuthor_script_deleted :
    let tables : Tables := ⟨[⟨1, none, "Ada", none, some "ada"⟩], [⟨7, "early"⟩],
      [⟨5, 1, "p", "q", "", ""⟩], [⟨5, 7⟩]⟩
    let repo : Repository := fun n =>
      if n < 3 then tables.store 0 n else { tables with tags := [] }.store 0 n
    let run := (quotesByAuthor (.string "ada")).run repo
    repo.Readable ∧ ∃ before q f, repo.Answered 0 before ∧
      repo.Refuses "quotes_by_author" before.length q f ∧ run = ⟨.error f, before ++ [q]⟩ ∧
      run.lookups.length = 4 ∧
      f = .service (.notFound "Tag" "quotes_by_author.fetch_tag_by_id" none) := by
  intro tables repo run
  have readable : repo.Readable := by
    intro n q a answer
    dsimp only [repo] at answer
    split at answer
    · exact (Tables.store_conforms _ _).readable n q a answer
    · exact (Tables.store_conforms _ _).readable n q a answer
  have outcome : run.outcome =
      .error (.service (.notFound "Tag" "quotes_by_author.fetch_tag_by_id" none)) := by
    cbv
  have asked : run.lookups.length = 4 := by cbv
  obtain ⟨-, ⟨row, author, rows, quotes, done, -⟩ | ⟨before, q, after, f, -, answered, refusal, done⟩ |
    ⟨unread, -⟩⟩ := quotesByAuthor_script repo (.string "ada")
  · rw [show run = _ from done] at outcome
    cases outcome
  · refine ⟨readable, before, q, f, answered, refusal, done, asked, ?_⟩
    rw [show run = _ from done] at outcome
    exact Except.error.inj outcome
  · exact absurd readable unread

end Assembly
end QuoteService
