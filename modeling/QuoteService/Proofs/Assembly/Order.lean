import Mathlib
import QuoteService.Assembly
import QuoteService.Proofs.Database.Conformance
import QuoteService.Proofs.Plan.Order

/-! Assembly does not depend on the order of rows. It stops at the first tag that is missing, so how
many lookups it makes does depend on it; but every missing tag is reported alike. -/
namespace QuoteService

/-- A quote whose tags are in no order. -/
def Quote.unordered (q : Quote) : Quote × Multiset Tag := ({ q with tags := [] }, q.tags)

/-- Quotes in no order. -/
def Quote.unorderedAll (quotes : List Quote) : Multiset (Quote × Multiset Tag) :=
  quotes.map Quote.unordered

/-- Quotes that differ in the order of their tags alone. -/
theorem Quote.unordered_eq_iff {q r : Quote} :
    q.unordered = r.unordered ↔ ∃ tags, q.tags.Perm tags ∧ r = { q with tags } := by
  constructor
  · intro same
    obtain ⟨bare, tags⟩ := Prod.mk.inj same
    refine ⟨r.tags, Multiset.coe_eq_coe.1 tags, ?_⟩
    cases q
    cases r
    cases bare
    rfl
  · rintro ⟨tags, perm, rfl⟩
    exact Prod.ext rfl (Multiset.coe_eq_coe.2 perm)

namespace Assembly
open Plan Repository

/-- Some tag has no row. -/
def noTag (caller : String) : Failure :=
  .service (.notFound "Tag" (caller ++ "." ++ "fetch_tag_by_id") none)

/-- Nobody has the handle. -/
def noAuthor (caller : String) : Failure :=
  .service (.notFound "Author" (caller ++ "." ++ "fetch_author_by_handle") none)

section Content

variable (content : (q : Lookup) → q.Answer)

def tagOf? (id : Json) : Option Tag :=
  (content (.tagById id)).bind fun row => (Tag.ofRow row).toOption

def tagsOf? (quoteId : Json) : Option (Multiset Tag) :=
  gather (tagOf? content) (content (.tagIdsByQuoteId quoteId))

def quoteOf? (author : Author) (row : Row) : Option (Quote × Multiset Tag) :=
  (row.cell "id").toOption.bind fun id => (tagsOf? content id).bind fun tags =>
    (Quote.ofRow row author []).toOption.map fun bare => (bare, tags)

def authorOf? (handle : Json) : Option Author :=
  (content (.authorByHandle handle)).bind fun row => (Author.ofRow row).toOption

/-- The quotes of an author as a content has them, in no order. -/
def listing (caller : String) (handle : Json) : Except Failure (Multiset (Quote × Multiset Tag)) :=
  (orFail (noAuthor caller) (authorOf? content handle)).bind fun author => orFail (noTag caller)
    (gather (quoteOf? content author) (content (.quotesByAuthorId (.integer author.id))))

end Content

/-- A row that is there and fits is read; one that is not fails the plan. -/
theorem seenAs_present {α : Type} {repo : Repository} {resource caller : String} {q : Lookup}
    {found : Option Row} {read : Row → Except Failure α}
    (fits : ∀ row ∈ found, ∃ a, read row = .ok a) :
    SeenAs repo (fun a => a) (present resource caller q found >>= fun row => ofResult (read row))
      (orFail (absent resource caller q) (found.bind fun row => (read row).toOption)) := by
  cases found with
  | none => exact seenAs_fail _
  | some row =>
    obtain ⟨a, made⟩ := fits row rfl
    have value : orFail (absent resource caller q)
        ((some row).bind fun row => (read row).toOption) = .ok a := by
      rw [Option.bind_some, made]
      rfl
    have plan : (present resource caller q (some row) >>= fun row => ofResult (read row)) =
        .done a := by
      show ofResult (read row) = _
      rw [made]
      rfl
    rw [value, plan]
    exact seenAs_done a

/-- Rows that all fit are all read, in the order they come in. -/
theorem seenAs_readAll {α : Type} {repo : Repository} {rows others : List Row}
    (order : rows.Perm others) {read : Row → Except Failure α}
    (fits : ∀ row ∈ rows, ∃ a, read row = .ok a) :
    SeenAs repo Multiset.ofList (each (fun row => ofResult (read row)) others)
      (.ok (rows.filterMap fun row => (read row).toOption)) := by
  rw [each_ofResult fun row mem => fits row (order.mem_iff.2 mem),
    Multiset.coe_eq_coe.2 (order.filterMap _)]
  exact seenAs_done _

section Presented

variable {keys : Json → Prop} {content : (q : Lookup) → q.Answer} {repo : Repository}
  (presents : repo.Presents keys content) (caller : String)

include presents

theorem seenAs_tag {key : Json} (known : keys key) :
    SeenAs repo (fun x => x) (tag caller key) (orFail (noTag caller) (tagOf? content key)) := by
  have takes : (Lookup.tagById key).Takes keys := Lookup.takes_of_key rfl known
  refine seenAs_ask fun n => ?_
  obtain ⟨row, answer, same⟩ := presents.answered n _ takes
  obtain rfl : content (.tagById key) = row := same
  refine ⟨_, answer, seenAs_present fun row there => ?_⟩
  exact ofRow_of_fits_tags ((presents.fits _ takes).rows _ rfl row (Option.mem_toList.2 there))

theorem seenAs_tagsOf {quoteId : Json} (known : keys quoteId) :
    SeenAs repo Multiset.ofList (tagsOf caller quoteId)
      (orFail (noTag caller) (tagsOf? content quoteId)) := by
  have takes : (Lookup.tagIdsByQuoteId quoteId).Takes keys := Lookup.takes_of_key rfl known
  refine seenAs_ask fun n => ?_
  obtain ⟨ids, answer, same⟩ := presents.answered n _ takes
  have order : (content (.tagIdsByQuoteId quoteId)).Perm ids := same
  refine ⟨ids, answer, ?_⟩
  have all := SeenAs.each fun id (mem : id ∈ ids) =>
    seenAs_tag presents caller ((presents.fits _ takes).ids id (order.mem_iff.2 mem))
  simpa only [tagsOf?, gather_perm order, List.map_id'] using all

theorem seenAs_quoteBy {author : Author} {row : Row} (fits : Schema.quotes.Fits row)
    (known : ∀ id, row.cell "id" = .ok id → keys id) :
    SeenAs repo Quote.unordered (quoteBy caller author row)
      (orFail (noTag caller) (quoteOf? content author row)) := by
  -- a row that fits makes a quote whatever its tags, so these alone can be missing
  obtain ⟨id, postId, text, permalink, pictureUrl, key, made⟩ := ofRow_of_fits_quotes fits
  have worth : orFail (noTag caller) (quoteOf? content author row) =
      (orFail (noTag caller) (tagsOf? content (.integer id))).bind fun tags =>
        .ok (⟨id, postId, author, text, permalink, pictureUrl, []⟩, tags) := by
    rw [quoteOf?, key, made]
    simp only [Except.toOption, Option.bind_some]
    cases tagsOf? content (.integer id) <;> rfl
  have plan : quoteBy caller author row =
      (tagsOf caller (.integer id)).bind fun tags =>
        .done ⟨id, postId, author, text, permalink, pictureUrl, tags⟩ := by
    simp only [quoteBy, key, made]
    rfl
  rw [worth, plan]
  exact (seenAs_tagsOf presents caller (known _ key)).plan_bind fun tags _ => seenAs_done _

/-- The quotes are the same in whatever order their rows come. -/
theorem seenAs_quotesOf {author : Author} (known : keys (.integer author.id)) :
    SeenAs repo Quote.unorderedAll (quotesOf caller author)
      (orFail (noTag caller)
        (gather (quoteOf? content author) (content (.quotesByAuthorId (.integer author.id))))) := by
  have takes : (Lookup.quotesByAuthorId (.integer author.id)).Takes keys :=
    Lookup.takes_of_key rfl known
  have fits := presents.fits _ takes
  refine seenAs_ask fun n => ?_
  obtain ⟨rows, answer, same⟩ := presents.answered n _ takes
  have order : (content (.quotesByAuthorId (.integer author.id))).Perm rows := same
  refine ⟨rows, answer, ?_⟩
  rw [gather_perm order]
  refine SeenAs.each fun row mem => ?_
  have there := order.mem_iff.2 mem
  refine seenAs_quoteBy presents caller (fits.rows _ rfl row there) fun id key => ?_
  exact fits.ids id (List.mem_filterMap.2 ⟨row, there, by rw [key]; rfl⟩)

theorem seenAs_authorByHandle {handle : Json} (known : keys handle) :
    SeenAs repo (fun a => a) (authorByHandle caller handle)
      (orFail (noAuthor caller) (authorOf? content handle)) := by
  have takes : (Lookup.authorByHandle handle).Takes keys := Lookup.takes_of_key rfl known
  refine seenAs_ask fun n => ?_
  obtain ⟨row, answer, same⟩ := presents.answered n _ takes
  obtain rfl : content (.authorByHandle handle) = row := same
  refine ⟨_, answer, seenAs_present fun row there => ?_⟩
  obtain ⟨a, made, -⟩ :=
    ofRow_of_fits_authors ((presents.fits _ takes).rows _ rfl row (Option.mem_toList.2 there))
  exact ⟨a, made⟩

/-- The id of the author that is found is a key to ask for quotes with. -/
theorem known_authorOf? {handle : Json} (known : keys handle) {author : Author}
    (found : authorOf? content handle = some author) : keys (.integer author.id) := by
  have fits := presents.fits (.authorByHandle handle) (Lookup.takes_of_key rfl known)
  obtain ⟨row, there, read⟩ := Option.bind_eq_some_iff.1 found
  have mem := Option.mem_toList.2 there
  obtain ⟨a, made, key⟩ := ofRow_of_fits_authors (fits.rows _ rfl row mem)
  obtain rfl : a = author := by
    rw [made] at read
    exact Option.some.inj read
  exact fits.ids _ (List.mem_filterMap.2 ⟨row, mem, by rw [key]; rfl⟩)

theorem seenAs_quotesByHandle {handle : Json} (known : keys handle) :
    SeenAs repo Quote.unorderedAll (quotesByHandle caller handle)
      (listing content caller handle) := by
  refine (seenAs_authorByHandle presents caller known).plan_bind fun author found => ?_
  exact seenAs_quotesOf presents caller (known_authorOf? presents known (orFail_eq_ok.1 found))

theorem seenAs_allAuthors : SeenAs repo Multiset.ofList allAuthors
    (.ok ((content .authors).filterMap fun row => (Author.ofRow row).toOption)) := by
  refine seenAs_ask fun n => ?_
  obtain ⟨rows, answer, order⟩ := presents.answered n .authors nofun
  refine ⟨rows, answer, seenAs_readAll order fun row mem => ?_⟩
  obtain ⟨a, made, -⟩ := ofRow_of_fits_authors ((presents.fits .authors nofun).rows _ rfl row mem)
  exact ⟨a, made⟩

theorem seenAs_allTags : SeenAs repo Multiset.ofList allTags
    (.ok ((content .tags).filterMap fun row => (Tag.ofRow row).toOption)) := by
  refine seenAs_ask fun n => ?_
  obtain ⟨rows, answer, order⟩ := presents.answered n .tags nofun
  refine ⟨rows, answer, seenAs_readAll order fun row mem => ?_⟩
  exact ofRow_of_fits_tags ((presents.fits .tags nofun).rows _ rfl row mem)

end Presented

theorem listing_eq_error {content : (q : Lookup) → q.Answer} {caller : String} {handle : Json}
    {f : Failure} (failed : listing content caller handle = .error f) :
    f = noAuthor caller ∨ f = noTag caller := by
  unfold listing at failed
  cases author : authorOf? content handle with
  | none =>
    rw [author] at failed
    exact .inl (Except.error.inj failed).symm
  | some a =>
    rw [author] at failed
    exact .inr (orFail_eq_error.1 failed).2.symm

/-- A list that is read from a content in any order. -/
theorem perm_of_seenAs {α : Type} {plan : Plan (List α)} {repo other : Repository} {items : List α}
    (h : SeenAs repo Multiset.ofList plan (.ok items))
    (k : SeenAs other Multiset.ofList plan (.ok items)) :
    ∃ read again, (plan.run repo).outcome = .ok read ∧ (plan.run other).outcome = .ok again ∧
      read.Perm again := by
  obtain ⟨f, failed, -⟩ | ⟨read, again, first, second, same⟩ := h.outcomes k
  · cases failed
  · exact ⟨read, again, first, second, Multiset.coe_eq_coe.1 same⟩

/-- The order of rows never matters. Of two repositories that give the same rows, at keys of a kind that
neither fails at, both find the same missing, or both have the same quotes of an author, up to the order
of the quotes and of the tags of each; and both have the same authors and tags, up to their order. -/
theorem order_irrelevant {keys : Json → Prop} {repo other : Repository}
    (conforms : repo.Conforms keys) (reordered : repo.Reordered keys other) :
    (∀ handle, keys handle →
      let listed := ((quotesByAuthor handle).run repo).outcome
      let relisted := ((quotesByAuthor handle).run other).outcome
      (∃ e, listed = .error (.service e) ∧ relisted = .error (.service e) ∧
        (e = .notFound "Author" "quotes_by_author.fetch_author_by_handle" none ∨
          e = .notFound "Tag" "quotes_by_author.fetch_tag_by_id" none)) ∨
      ∃ quotes others, listed = .ok quotes ∧ relisted = .ok others ∧
        (quotes.map Quote.unordered).Perm (others.map Quote.unordered)) ∧
    (∃ authors others, (allAuthors.run repo).outcome = .ok authors ∧
      (allAuthors.run other).outcome = .ok others ∧ authors.Perm others) ∧
    ∃ tags others, (allTags.run repo).outcome = .ok tags ∧
      (allTags.run other).outcome = .ok others ∧ tags.Perm others := by
  -- both are compared with what the first of them gives at first
  obtain ⟨first, second⟩ := reordered.presents conforms
  refine ⟨fun handle known => ?_, ?_, ?_⟩
  · have seen := seenAs_quotesByHandle first "quotes_by_author" known
    have again := seenAs_quotesByHandle second "quotes_by_author" known
    obtain ⟨f, failed, one, two⟩ | ⟨quotes, others, one, two, same⟩ := seen.outcomes again
    · refine .inl ?_
      obtain rfl | rfl := listing_eq_error failed
      · exact ⟨_, one, two, .inl rfl⟩
      · exact ⟨_, one, two, .inr rfl⟩
    · exact .inr ⟨quotes, others, one, two, Multiset.coe_eq_coe.1 same⟩
  · exact perm_of_seenAs (seenAs_allAuthors first) (seenAs_allAuthors second)
  · exact perm_of_seenAs (seenAs_allTags first) (seenAs_allTags second)

/-- An author with two quotes, of which one has two tags, and one whose quote has a tag without a row. -/
def scattered : Tables where
  authors := [⟨1, none, "Ada", none, some "ada"⟩, ⟨2, none, "Bob", some "", some "bob"⟩]
  tags := [⟨8, "late"⟩, ⟨7, "early"⟩]
  quotes := [⟨5, 1, "p5", "five", "", ""⟩, ⟨6, 1, "p6", "six", "", ""⟩, ⟨4, 2, "p4", "four", "", ""⟩]
  links := [⟨5, 7⟩, ⟨5, 8⟩, ⟨4, 9⟩, ⟨4, 7⟩]

/-- The store, and the same rows in the opposite order. -/
theorem order_irrelevant_scattered :
    let repo := scattered.store 0
    let listed (handle : String) := ((quotesByAuthor (.string handle)).run repo).outcome
    let relisted (handle : String) := ((quotesByAuthor (.string handle)).run repo.backward).outcome
    repo.Conforms Tables.IsKey ∧ repo.Reordered Tables.IsKey repo.backward ∧
      Tables.IsKey (.string "ada") ∧ Tables.IsKey (.string "bob") ∧
      (∃ quotes others, listed "ada" = .ok quotes ∧ relisted "ada" = .ok others ∧ quotes ≠ others ∧
        (quotes.map Quote.unordered).Perm (others.map Quote.unordered)) ∧
      ∃ e, listed "bob" = .error (.service e) ∧ relisted "bob" = .error (.service e) := by
  intro repo listed relisted
  have conforms : repo.Conforms Tables.IsKey := scattered.store_conforms 0
  have reordered : repo.Reordered Tables.IsKey repo.backward :=
    reordered_backward fun n q takes => scattered.store_answers 0 takes n
  obtain ⟨same, -, -⟩ := order_irrelevant conforms reordered
  refine ⟨conforms, reordered, Tables.isKey_text "ada", Tables.isKey_text "bob", ?_, ?_⟩
  · let ada : Author := ⟨1, "", "Ada", "", "ada"⟩
    let six : Quote := ⟨6, "p6", ada, "six", "", "", []⟩
    let five (tags : List Tag) : Quote := ⟨5, "p5", ada, "five", "", "", tags⟩
    have forward : ((quotesByAuthor (.string "ada")).run (scattered.store 0)).outcome =
        .ok [five [⟨7, "early"⟩, ⟨8, "late"⟩], six] := by cbv
    have opposite : ((quotesByAuthor (.string "ada")).run (scattered.store 0).backward).outcome =
        .ok [six, five [⟨8, "late"⟩, ⟨7, "early"⟩]] := by cbv
    obtain ⟨e, failed, -⟩ | ⟨quotes, others, one, two, perm⟩ := same _ (Tables.isKey_text "ada")
    · cases forward.symm.trans failed
    · refine ⟨quotes, others, one, two, ?_, perm⟩
      rintro rfl
      have : [five [⟨7, "early"⟩, ⟨8, "late"⟩], six] = [six, five [⟨8, "late"⟩, ⟨7, "early"⟩]] :=
        Except.ok.inj ((forward.symm.trans one).trans (two.symm.trans opposite))
      exact absurd this (by decide)
  · have missing : ((quotesByAuthor (.string "bob")).run (scattered.store 0)).outcome =
        .error (noTag "quotes_by_author") := by cbv
    obtain ⟨e, one, two, -⟩ | ⟨quotes, -, found, -⟩ := same _ (Tables.isKey_text "bob")
    · exact ⟨e, one, two⟩
    · cases missing.symm.trans found

end Assembly
end QuoteService
