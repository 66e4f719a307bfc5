import Mathlib
import QuoteService.Proofs.Database.Join

/-! A quote drawn from all quotes. Its author is found by the id in its own row and not by a handle,
and is missed before its tags are; what the draw gives is what the list of its author has. -/
namespace QuoteService
namespace Tables

open QuoteService.Assembly

variable {t : Tables}

section Draws

variable {draw : Nat} {r : QuoteRow}

theorem drawn?_eq_none : t.drawn? draw = none ↔ t.quotes = [] := by
  rw [drawn?, List.getElem?_eq_none_iff, sortedBy, List.length_mergeSort]
  constructor
  · intro beyond
    by_contra some
    exact absurd (Nat.mod_lt draw (List.length_pos_iff.2 some)) (Nat.not_lt.2 beyond)
  · intro none
    simp [none]

/-- Draws give the rows of the table, and leave none out. -/
theorem exists_drawn? : (∃ draw, t.drawn? draw = some r) ↔ r ∈ t.quotes := by
  constructor
  · rintro ⟨draw, drawn⟩
    exact mem_sortedBy.1 (List.mem_of_getElem? drawn)
  · intro mem
    obtain ⟨n, bound, rfl⟩ := List.mem_iff_getElem.1 (mem_sortedBy.2 mem : r ∈ sortedBy QuoteRow.id _)
    have within : n < t.quotes.length := by simpa [sortedBy] using bound
    refine ⟨n, ?_⟩
    rw [drawn?, Nat.mod_eq_of_lt within, List.getElem?_eq_getElem bound]

end Draws

/-- There is no quote to draw. -/
def noQuote : Failure := .service (.notFound "Quote" "random_quote.fetch_random_quote" none)

/-- A random quote is assembled from the row of the draw. -/
theorem evaluate_randomQuote (t : Tables) (draw : Nat) :
    randomQuote.evaluate (t.fetch draw) =
      (t.drawn? draw).elim (.error noQuote) fun r =>
        (t.author? r.authorId).elim (.error (missingAuthor "random_quote")) fun a =>
          (t.tagsOf r.id).elim (.error (unknownTag "random_quote")) fun xs =>
            .ok (r.entity a.entity (xs.map TagRow.entity)) := by
  rw [randomQuote, Plan.evaluate_bind, Plan.evaluate_look, fetch_randomQuote]
  cases t.drawn? draw with
  | none => rfl
  | some r => simp [Except.bind, present, evaluate_quote]

section Ways

variable {draw : Nat} {r : QuoteRow} {a : AuthorRow}

theorem missingAuthor_ne_noQuote (caller : String) : missingAuthor caller ≠ noQuote := by
  simp [missingAuthor, noQuote, ServiceError.notFound]

theorem unknownTag_ne_noQuote (caller : String) : unknownTag caller ≠ noQuote := by
  simp [unknownTag, noQuote, ServiceError.notFound]

theorem unknownTag_ne_missingAuthor (caller other : String) :
    unknownTag caller ≠ missingAuthor other := by
  simp [unknownTag, missingAuthor, ServiceError.notFound]

theorem randomQuote_noQuote :
    (randomQuote.run (t.store draw)).outcome = .error noQuote ↔ t.quotes = [] := by
  have none : t.drawn? draw = none ↔ t.quotes = [] := drawn?_eq_none
  rw [outcome_run_store, evaluate_randomQuote, ← none]
  cases t.drawn? draw with
  | none => simp
  | some r =>
    rw [Option.elim_some]
    cases t.author? r.authorId with
    | none => simp [missingAuthor_ne_noQuote]
    | some a => cases t.tagsOf r.id <;> simp [unknownTag_ne_noQuote]

variable (drawn : t.drawn? draw = some r)

include drawn

/-- The author is missed before any tag. -/
theorem randomQuote_missingAuthor :
    (randomQuote.run (t.store draw)).outcome = .error (missingAuthor "random_quote") ↔
      ∀ a ∈ t.authors, a.id ≠ r.authorId := by
  rw [outcome_run_store, evaluate_randomQuote, drawn, Option.elim_some, ← author?_eq_none]
  cases t.author? r.authorId with
  | none => simp
  | some a => cases t.tagsOf r.id <;> simp [unknownTag_ne_missingAuthor]

variable (author : t.author? r.authorId = some a)

include author

theorem randomQuote_unknownTag :
    (randomQuote.run (t.store draw)).outcome = .error (unknownTag "random_quote") ↔
      t.Dangling r.id := by
  rw [outcome_run_store, evaluate_randomQuote, drawn, Option.elim_some, author, Option.elim_some,
    ← tagsOf_eq_none]
  cases t.tagsOf r.id <;> simp

theorem randomQuote_eq_ok {quote : Quote} :
    (randomQuote.run (t.store draw)).outcome = .ok quote ↔
      ∃ xs, t.tagsOf r.id = some xs ∧ r.entity a.entity (xs.map TagRow.entity) = quote := by
  rw [outcome_run_store, evaluate_randomQuote, drawn, Option.elim_some, author, Option.elim_some]
  cases t.tagsOf r.id <;> simp

end Ways

/-- The author of a quote is who its handle stands for, unless an author before it has the handle. -/
theorem named?_eq_some (keyed : t.Keyed) {handle : String} {a : AuthorRow} (mem : a ∈ t.authors)
    (named : a.twitterUsername = some handle)
    (first : ∀ b ∈ t.authors, b.id < a.id → b.twitterUsername ≠ some handle) :
    t.named? handle = some a := by
  cases found : t.named? handle with
  | none => exact absurd named (named?_eq_none.1 found a mem)
  | some b =>
    obtain ⟨there, same, lowest⟩ := isNamed_of_named? found
    have below : b.id ≤ a.id := lowest a mem named
    have equal : b.id = a.id := by
      by_contra other
      exact first b there (Int64.lt_of_le_of_ne below other) same
    rw [List.inj_on_of_nodup_map keyed.authors there mem equal]

/-- No two quotes of a list share an id. -/
theorem IsJoin.nodup {a : AuthorRow} {quotes : List Quote} (join : t.IsJoin a quotes) :
    (quotes.map Quote.id).Nodup := by
  obtain ⟨rows, own, shown⟩ := join
  have ids : quotes.map Quote.id = rows.map fun r => r.id.toInt := by
    rw [← List.forall₂_eq_eq_eq, List.forall₂_map_left_iff, List.forall₂_map_right_iff]
    exact shown.flip.imp fun _ _ h => h.id
  rw [ids]
  exact own.nodup

/-- Where the quotes of an author are listed, the quote of each row of the author is the only one of
its id there. -/
theorem filter_listed (keyed : t.Keyed) {draw : Nat} {handle : String} {a : AuthorRow}
    (named : t.named? handle = some a) {r : QuoteRow} (mem : r ∈ t.quotes)
    (own : r.authorId = a.id) {xs : List TagRow} (tagged : t.tagsOf r.id = some xs)
    {quotes : List Quote}
    (listed : ((quotesByAuthor (.string handle)).run (t.store draw)).outcome = .ok quotes) :
    quotes.filter (fun q => q.id == r.id.toInt) = [r.entity a.entity (xs.map TagRow.entity)] := by
  rw [outcome_run_store, quotesByAuthor, evaluate_quotesByHandle, named, Option.elim_some] at listed
  cases all : t.resolved a.id with
  | none =>
    rw [all] at listed
    cases listed
  | some found =>
    rw [all] at listed
    obtain rfl := Except.ok.inj listed
    have unique := (isJoin_of_resolved keyed all).nodup
    have pair : (r, xs) ∈ found := by
      rw [mem_of_mapM_eq_some all]
      exact ⟨r, mem_quotesOf.2 ⟨mem, own⟩, by rw [tagged]; rfl⟩
    exact filter_key_eq unique (List.mem_map_of_mem pair)

/-- What a random quote is: the quote of the row that is drawn, with its author and its tags. It fails
for want of a quote, else of its author, else of a tag. If it is given, and its author is the first of
its handle, then the list of the handle, if there is one, has this very quote and no other of its id. -/
theorem outcome_randomQuote (t : Tables) (keyed : t.Keyed) :
    (∀ r, r ∈ t.quotes ↔ ∃ draw, t.drawn? draw = some r) ∧ ∀ draw,
      let outcome := (randomQuote.run (t.store draw)).outcome
      (∀ n, t.store draw n .randomQuote = .ok ((t.drawn? draw).map QuoteRow.toRow)) ∧
      (t.quotes ≠ [] → ∃ r, t.drawn? draw = some r) ∧
      (outcome = .error (.service (.notFound "Quote" "random_quote.fetch_random_quote" none)) ↔
        t.quotes = []) ∧
      ∀ r, t.drawn? draw = some r →
        (outcome = .error (.service (.notFound "Author" "random_quote.fetch_author_by_id" none)) ↔
          ∀ a ∈ t.authors, a.id ≠ r.authorId) ∧
        ∀ a ∈ t.authors, a.id = r.authorId →
          (outcome = .error (.service (.notFound "Tag" "random_quote.fetch_tag_by_id" none)) ↔
            t.Dangling r.id) ∧
          (¬ t.Dangling r.id → ∃ quote, outcome = .ok quote ∧ t.Shows a r quote) ∧
          ∀ quote handle, outcome = .ok quote → a.twitterUsername = some handle →
            (∀ b ∈ t.authors, b.id < a.id → b.twitterUsername ≠ some handle) →
            ∀ other quotes,
              ((quotesByAuthor (.string handle)).run (t.store other)).outcome = .ok quotes →
              quotes.filter (fun q => q.id == quote.id) = [quote] := by
  refine ⟨fun r => exists_drawn?.symm, fun draw => ⟨fun n => ?_, fun some => ?_,
    randomQuote_noQuote, fun r drawn => ⟨randomQuote_missingAuthor drawn, fun a mem own => ?_⟩⟩⟩
  · rw [store_eq_fetch]
    exact t.fetch_randomQuote draw
  · exact Option.ne_none_iff_exists'.1 (drawn?_eq_none.not.2 some)
  · have author : t.author? r.authorId = some a := (author?_eq_some keyed).2 ⟨mem, own⟩
    refine ⟨randomQuote_unknownTag drawn author, fun whole => ?_, ?_⟩
    · obtain ⟨xs, tagged⟩ := Option.ne_none_iff_exists'.1 (tagsOf_eq_none.not.2 whole)
      exact ⟨_, (randomQuote_eq_ok drawn author).2 ⟨xs, tagged, rfl⟩, shows_entity keyed a tagged⟩
    · intro quote handle given named first other quotes listed
      obtain ⟨xs, tagged, rfl⟩ := (randomQuote_eq_ok drawn author).1 given
      have row : r ∈ t.quotes := exists_drawn?.1 ⟨draw, drawn⟩
      exact filter_listed keyed (named?_eq_some keyed mem named first) row own.symm tagged listed

/-- A quote of an author who is the first of two with a handle, and one of the second, which lacks a
tag: its author is found by id all the same. -/
theorem outcome_randomQuote_shared :
    let ada : Author := ⟨1, "", "A", "", "ada"⟩
    let five : Quote := ⟨5, "p5", ada, "five", "", "", [⟨7, "early"⟩]⟩
    let six : Quote := ⟨6, "p6", ada, "six", "", "", [⟨7, "early"⟩, ⟨8, "late"⟩]⟩
    shared.Keyed ∧ (randomQuote.run (shared.store 2)).outcome = .ok six ∧
      ((quotesByAuthor (.string "ada")).run (shared.store 0)).outcome = .ok [five, six] ∧
      [five, six].filter (fun q => q.id == six.id) = [six] ∧
      (randomQuote.run (shared.store 0)).outcome =
        .error (.service (.notFound "Tag" "random_quote.fetch_tag_by_id" none)) := by
  intro ada five six
  have given : (randomQuote.run (shared.store 2)).outcome = .ok six := by cbv
  have listed : ((quotesByAuthor (.string "ada")).run (shared.store 0)).outcome =
      .ok [five, six] := by cbv
  obtain ⟨-, draws⟩ := outcome_randomQuote shared keyed_shared
  refine ⟨keyed_shared, given, listed, ?_, ?_⟩
  · obtain ⟨-, -, -, row⟩ := draws 2
    obtain ⟨-, -, agree⟩ := (row ⟨6, 1, "p6", "six", "", ""⟩ (by cbv)).2
      ⟨1, none, "A", some "", some "ada"⟩ (by decide) rfl
    exact agree six "ada" given rfl (by decide) 0 [five, six] listed
  · obtain ⟨-, -, -, row⟩ := draws 0
    obtain ⟨missing, -⟩ := (row ⟨4, 2, "p4", "four", "", ""⟩ (by cbv)).2
      ⟨2, none, "B", none, some "ada"⟩ (by decide) rfl
    exact missing.2 (by decide)

end Tables
end QuoteService
