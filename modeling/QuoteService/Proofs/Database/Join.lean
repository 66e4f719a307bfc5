import QuoteService.Proofs.Database.Resolution

/-! The quotes of an author as a join of four tables. Foreign keys are not enforced: a link may lead
to a tag that has no row, and then the whole list fails. -/
namespace QuoteService
namespace Tables

variable {t : Tables}

section Lookups

theorem tag?_eq_some (keyed : t.Keyed) {id : Int64} {x : TagRow} :
    t.tag? id = some x ↔ x ∈ t.tags ∧ x.id = id :=
  find?_sortedBy_key keyed.tags

theorem tag?_eq_none {id : Int64} : t.tag? id = none ↔ ∀ x ∈ t.tags, x.id ≠ id :=
  find?_sortedBy_key_eq_none

theorem author?_eq_some (keyed : t.Keyed) {id : Int64} {a : AuthorRow} :
    t.author? id = some a ↔ a ∈ t.authors ∧ a.id = id :=
  find?_sortedBy_key keyed.authors

theorem author?_eq_none {id : Int64} : t.author? id = none ↔ ∀ a ∈ t.authors, a.id ≠ id :=
  find?_sortedBy_key_eq_none

theorem mem_linksOf {quoteId : Int64} {l : Link} :
    l ∈ t.linksOf quoteId ↔ l ∈ t.links ∧ l.quoteId = quoteId := by
  rw [linksOf, mem_sortedBy, List.mem_filter, beq_iff_eq, eq_comm]

/-- The links of one quote lead to different tags. -/
theorem linksOf_strict (keyed : t.Keyed) (quoteId : Int64) :
    (t.linksOf quoteId).Pairwise fun l m => l.tagId < m.tagId := by
  apply sortedBy_strict
  refine List.Nodup.map_on ?_ (keyed.links.filter _)
  rintro ⟨q, x⟩ hl ⟨r, y⟩ hm same
  simp only [List.mem_filter, beq_iff_eq] at hl hm same
  rw [← hl.2, ← hm.2, same]

theorem mem_quotesOf {authorId : Int64} {q : QuoteRow} :
    q ∈ t.quotesOf authorId ↔ q ∈ t.quotes ∧ q.authorId = authorId := by
  rw [quotesOf, mem_sortedBy, List.mem_filter, beq_iff_eq, eq_comm]

theorem quotesOf_ascending (keyed : t.Keyed) (authorId : Int64) :
    Ascending QuoteRow.id (fun r => r ∈ t.quotes ∧ r.authorId = authorId)
      (t.quotesOf authorId) := by
  refine ⟨?_, fun r => mem_quotesOf⟩
  apply sortedBy_strict
  exact keyed.quotes.sublist (List.filter_sublist.map _)

end Lookups

/-- A link of a quote that leads to no tag. -/
def Dangling (t : Tables) (quoteId : Int64) : Prop :=
  ∃ l ∈ t.links, l.quoteId = quoteId ∧ ∀ x ∈ t.tags, x.id ≠ l.tagId

/-- The tags of a quote are the rows that its links lead to. -/
def IsTagged (t : Tables) (quoteId : Int64) (xs : List TagRow) : Prop :=
  Ascending TagRow.id (fun x => x ∈ t.tags ∧ ⟨quoteId, x.id⟩ ∈ t.links) xs

theorem tagsOf_eq_none {quoteId : Int64} : t.tagsOf quoteId = none ↔ t.Dangling quoteId := by
  simp only [tagsOf, mapM_eq_none_iff, mem_linksOf, tag?_eq_none, Dangling, and_assoc]

theorem isTagged_of_tagsOf (keyed : t.Keyed) {quoteId : Int64} {xs : List TagRow}
    (found : t.tagsOf quoteId = some xs) : t.IsTagged quoteId xs := by
  have same : (t.linksOf quoteId).map Link.tagId = xs.map TagRow.id := by
    have pairs := mapM_eq_some_iff.1 found
    rw [← List.forall₂_eq_eq_eq, List.forall₂_map_left_iff, List.forall₂_map_right_iff]
    exact pairs.imp fun l x h => ((tag?_eq_some keyed).1 h).2.symm
  constructor
  · rw [← List.pairwise_map, ← same, List.pairwise_map]
    exact linksOf_strict keyed quoteId
  · intro x
    simp only [mem_of_mapM_eq_some found, mem_linksOf, tag?_eq_some keyed]
    constructor
    · rintro ⟨⟨q, y⟩, ⟨mem, rfl⟩, row, rfl⟩
      exact ⟨row, mem⟩
    · rintro ⟨row, mem⟩
      exact ⟨⟨quoteId, x.id⟩, ⟨mem, rfl⟩, row, rfl⟩

/-- Some quote of an author has a link that leads to no tag. -/
def DanglingBy (t : Tables) (a : AuthorRow) : Prop :=
  ∃ q ∈ t.quotes, q.authorId = a.id ∧ t.Dangling q.id

instance (t : Tables) (quoteId : Int64) : Decidable (t.Dangling quoteId) :=
  inferInstanceAs (Decidable (∃ l ∈ t.links, _ ∧ ∀ x ∈ t.tags, _))

instance (t : Tables) (a : AuthorRow) : Decidable (t.DanglingBy a) :=
  inferInstanceAs (Decidable (∃ q ∈ t.quotes, _ ∧ t.Dangling q.id))

/-- A quote shows its own row, its author, and exactly the tags linked to it. -/
structure Shows (t : Tables) (a : AuthorRow) (row : QuoteRow) (quote : Quote) : Prop where
  id : quote.id = row.id.toInt
  postId : quote.postId = row.postId
  author : quote.author = a.entity
  content : quote.content = row.content
  permalink : quote.permalink = row.permalink
  pictureUrl : quote.pictureUrl = row.pictureUrl
  tags : ∃ xs, t.IsTagged row.id xs ∧ quote.tags = xs.map TagRow.entity

/-- The quotes of an author: one for each row that refers to it, in ascending order. -/
def IsJoin (t : Tables) (a : AuthorRow) (quotes : List Quote) : Prop :=
  ∃ rows, Ascending QuoteRow.id (fun r => r ∈ t.quotes ∧ r.authorId = a.id) rows ∧
    List.Forall₂ (t.Shows a) rows quotes

/-- The author a handle stands for: of those who have it, the one with the lowest id. -/
structure IsNamed (t : Tables) (handle : String) (a : AuthorRow) : Prop where
  row : a ∈ t.authors
  named : a.twitterUsername = some handle
  lowest : ∀ b ∈ t.authors, b.twitterUsername = some handle → a.id ≤ b.id

theorem isNamed_of_named? {handle : String} {a : AuthorRow} (found : t.named? handle = some a) :
    t.IsNamed handle a := by
  obtain ⟨mem, same, lowest⟩ := lowest_of_find?_sortedBy found
  exact ⟨mem, eq_of_beq same, fun b hb h => lowest b hb (by simp [h])⟩

theorem named?_eq_none {handle : String} :
    t.named? handle = none ↔ ∀ a ∈ t.authors, a.twitterUsername ≠ some handle := by
  rw [named?, find?_sortedBy_eq_none]
  simp only [beq_iff_eq, ne_eq]

theorem resolved_eq_none (a : AuthorRow) : t.resolved a.id = none ↔ t.DanglingBy a := by
  rw [resolved, mapM_eq_none_iff]
  simp only [Option.map_eq_none_iff, tagsOf_eq_none, mem_quotesOf, and_assoc, DanglingBy]

/-- The entity of a row shows it, once its tags are found. -/
theorem shows_entity (keyed : t.Keyed) (a : AuthorRow) {q : QuoteRow} {xs : List TagRow}
    (tagged : t.tagsOf q.id = some xs) :
    t.Shows a q (q.entity a.entity (xs.map TagRow.entity)) :=
  ⟨rfl, rfl, rfl, rfl, rfl, rfl, xs, isTagged_of_tagsOf keyed tagged, rfl⟩

/-- What is resolved for an author is the join. -/
theorem isJoin_of_resolved (keyed : t.Keyed) {a : AuthorRow}
    {found : List (QuoteRow × List TagRow)} (all : t.resolved a.id = some found) :
    t.IsJoin a (found.map fun r => r.1.entity a.entity (r.2.map TagRow.entity)) := by
  refine ⟨t.quotesOf a.id, quotesOf_ascending keyed a.id, ?_⟩
  rw [List.forall₂_map_right_iff]
  refine (mapM_eq_some_iff.1 all).imp fun q r h => ?_
  obtain ⟨xs, tagged, rfl⟩ := Option.map_eq_some_iff.1 h
  exact shows_entity keyed a tagged

/-- Asking for the quotes of a handle gives the join of the four tables: it fails if nobody has the
handle, it fails as a whole if a link of its author's quotes leads to no tag, and else it lists all
quotes of the author with all their tags. -/
theorem outcome_quotesByAuthor (t : Tables) (keyed : t.Keyed) (draw : Nat) (handle : String) :
    let outcome := ((Assembly.quotesByAuthor (.string handle)).run (t.store draw)).outcome
    ((∀ a ∈ t.authors, a.twitterUsername ≠ some handle) ∧
      outcome = .error (.service (.notFound "Author" "quotes_by_author.fetch_author_by_handle" none)))
    ∨ ∃ a, t.IsNamed handle a ∧
      ((t.DanglingBy a ∧
        outcome = .error (.service (.notFound "Tag" "quotes_by_author.fetch_tag_by_id" none))) ∨
      (¬ t.DanglingBy a ∧ ∃ quotes, outcome = .ok quotes ∧ t.IsJoin a quotes)) := by
  intro outcome
  have value : outcome = _ := outcome_run_store t draw (Assembly.quotesByAuthor (.string handle))
  rw [Assembly.quotesByAuthor, evaluate_quotesByHandle] at value
  cases named : t.named? handle with
  | none =>
    left
    rw [named] at value
    exact ⟨named?_eq_none.1 named, value⟩
  | some a =>
    right
    refine ⟨a, isNamed_of_named? named, ?_⟩
    rw [named, Option.elim_some] at value
    cases all : t.resolved a.id with
    | none =>
      left
      rw [all] at value
      exact ⟨(resolved_eq_none a).1 all, value⟩
    | some found =>
      right
      rw [all] at value
      refine ⟨fun dangling => ?_, _, value, isJoin_of_resolved keyed all⟩
      rw [← resolved_eq_none, all] at dangling
      cases dangling

/-- Two authors share a handle, two quotes share a tag, and a link of another author dangles. -/
def shared : Tables where
  authors := [⟨2, none, "B", none, some "ada"⟩, ⟨1, none, "A", some "", some "ada"⟩,
    ⟨3, none, "C", none, none⟩]
  tags := [⟨8, "late"⟩, ⟨7, "early"⟩]
  quotes := [⟨6, 1, "p6", "six", "", ""⟩, ⟨5, 1, "p5", "five", "", ""⟩, ⟨4, 2, "p4", "four", "", ""⟩]
  links := [⟨6, 8⟩, ⟨6, 7⟩, ⟨5, 7⟩, ⟨4, 9⟩]

theorem keyed_shared : shared.Keyed := ⟨by decide, by decide, by decide, by decide⟩

theorem outcome_quotesByAuthor_shared :
    shared.Keyed ∧ ∃ a quotes, a.id = 1 ∧ shared.IsNamed "ada" a ∧
      ((Assembly.quotesByAuthor (.string "ada")).run (shared.store 0)).outcome = .ok quotes ∧
      shared.IsJoin a quotes := by
  have first : ∀ a, shared.IsNamed "ada" a → a = ⟨1, none, "A", some "", some "ada"⟩ := by
    intro a named
    have row : a ∈ shared.authors := named.row
    have lowest := named.lowest ⟨1, none, "A", some "", some "ada"⟩ (by decide) rfl
    simp only [shared, List.mem_cons, List.not_mem_nil, or_false] at row
    obtain rfl | rfl | rfl := row
    · exact absurd lowest (by decide)
    · rfl
    · exact absurd named.named (by decide)
  refine ⟨keyed_shared, ?_⟩
  obtain ⟨nobody, -⟩ | ⟨a, named, ⟨dangling, -⟩ | ⟨-, quotes, listed, join⟩⟩ :=
    outcome_quotesByAuthor shared keyed_shared 0 "ada"
  · exact absurd rfl (nobody ⟨1, none, "A", some "", some "ada"⟩ (by decide))
  · obtain rfl := first a named
    exact absurd dangling (by decide)
  · exact ⟨a, quotes, by rw [first a named], named, listed, join⟩

end Tables
end QuoteService
