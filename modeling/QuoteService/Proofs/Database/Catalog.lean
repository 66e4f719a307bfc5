import QuoteService.Proofs.Assembly.Draw
import QuoteService.Proofs.Database.Random

/-! The listings of authors and of tags have all rows, and all that quotes show: whichever way a quote
was found, its author and its tags are elements of them. -/
namespace QuoteService
namespace Tables

open QuoteService.Assembly

variable {t : Tables} {draw : Nat} {quote : Quote}

section Listings

variable (t draw)

theorem outcome_allAuthors : (allAuthors.run (t.store draw)).outcome =
    .ok ((sortedBy AuthorRow.id t.authors).map AuthorRow.entity) := by
  rw [outcome_run_store, allAuthors, Plan.evaluate_bind, Plan.evaluate_look, fetch_authors]
  simp only [Except.bind, Plan.evaluate_each, Plan.evaluate_ofResult, List.mapM_map,
    Function.comp_def, ofRow_authorRow]
  exact List.mapM_pure

theorem outcome_allTags : (allTags.run (t.store draw)).outcome =
    .ok ((sortedBy TagRow.id t.tags).map TagRow.entity) := by
  rw [outcome_run_store, allTags, Plan.evaluate_bind, Plan.evaluate_look, fetch_tags]
  simp only [Except.bind, Plan.evaluate_each, Plan.evaluate_ofResult, List.mapM_map,
    Function.comp_def, ofRow_tagRow]
  exact List.mapM_pure

end Listings

/-- Quotes that are given: one at random, those of a handle, or one of these. -/
inductive Given (t : Tables) : Quote → Prop
  | random {draw : Nat} {quote : Quote}
    (given : (randomQuote.run (t.store draw)).outcome = .ok quote) : Given t quote
  | listed {draw : Nat} {handle : String} {quotes : List Quote} {quote : Quote}
    (given : ((quotesByAuthor (.string handle)).run (t.store draw)).outcome = .ok quotes)
    (mem : quote ∈ quotes) : Given t quote
  | picked {draw : Nat} {handle : String} {pick : Draw} {quote : Quote}
    (given : ((randomQuoteByAuthor pick (.string handle)).run (t.store draw)).outcome = .ok quote) :
    Given t quote

/-- A row that is there, and an author that is there, stand behind a quote. -/
def Backed (t : Tables) (quote : Quote) : Prop :=
  ∃ a ∈ t.authors, ∃ r ∈ t.quotes, t.Shows a r quote

theorem backed_random (keyed : t.Keyed)
    (given : (randomQuote.run (t.store draw)).outcome = .ok quote) : t.Backed quote := by
  have value := outcome_run_store t draw randomQuote
  rw [given, evaluate_randomQuote] at value
  cases drawn : t.drawn? draw with
  | none => simp [drawn] at value
  | some r =>
    cases author : t.author? r.authorId with
    | none => simp [drawn, author] at value
    | some a =>
      obtain ⟨xs, tagged, rfl⟩ := (randomQuote_eq_ok drawn author).1 given
      exact ⟨a, ((author?_eq_some keyed).1 author).1, r, exists_drawn?.1 ⟨draw, drawn⟩,
        shows_entity keyed a tagged⟩

/-- Whichever operation asks for the quotes of a handle, all that it finds are backed. -/
theorem backed_quotesByHandle (keyed : t.Keyed) {caller handle : String} {quotes : List Quote}
    (given : ((quotesByHandle caller (.string handle)).run (t.store draw)).outcome = .ok quotes)
    (mem : quote ∈ quotes) : t.Backed quote := by
  rw [outcome_run_store, evaluate_quotesByHandle] at given
  cases named : t.named? handle with
  | none => simp [named] at given
  | some a =>
    rw [named, Option.elim_some] at given
    cases all : t.resolved a.id with
    | none => simp [all] at given
    | some found =>
      rw [all] at given
      obtain rfl := Except.ok.inj given
      obtain ⟨⟨r, xs⟩, pair, rfl⟩ := List.mem_map.1 mem
      obtain ⟨row, own, found⟩ := (mem_of_mapM_eq_some all _).1 pair
      obtain ⟨tags, tagged, same⟩ := Option.map_eq_some_iff.1 found
      obtain ⟨rfl, rfl⟩ := Prod.mk.inj same
      exact ⟨a, (isNamed_of_named? named).row, row, (mem_quotesOf.1 own).1,
        shows_entity keyed a tagged⟩

theorem backed_of_given (keyed : t.Keyed) (given : t.Given quote) : t.Backed quote := by
  cases given with
  | random given => exact backed_random keyed given
  | listed given mem => exact backed_quotesByHandle keyed given mem
  | @picked draw handle pick quote given =>
    let all := (quotesByHandle "random_quote_by_author" (.string handle)).run (t.store draw)
    have picked : all.outcome.bind (drawn pick) = .ok quote :=
      (congrArg Run.outcome (run_randomQuoteByAuthor _ _ pick)).symm.trans given
    cases listed : all.outcome with
    | error f => simp [listed, Except.bind] at picked
    | ok quotes =>
      rw [listed] at picked
      have some : 0 < quotes.length := by
        by_contra none
        simp [Except.bind, drawn, none] at picked
      exact backed_quotesByHandle keyed listed ((mem_iff_drawn some quote).2 ⟨pick, picked⟩)

/-- The listings have one entity for each row, in ascending order, with empty texts for null columns;
and whatever quote is given, whichever way, its author is one of the authors that are listed, its tags
are some of the tags, and no two of them have one id. -/
theorem listings_agree (t : Tables) (keyed : t.Keyed) :
    ∃ authorRows tagRows,
      Ascending AuthorRow.id (fun a => a ∈ t.authors) authorRows ∧
      Ascending TagRow.id (fun x => x ∈ t.tags) tagRows ∧
      let authors : List Author := authorRows.map fun a =>
        ⟨a.id.toInt, a.avatarUrl.getD "", a.name, a.company.getD "", a.twitterUsername.getD ""⟩
      let tags : List Tag := tagRows.map fun x => ⟨x.id.toInt, x.label⟩
      (∀ draw, (allAuthors.run (t.store draw)).outcome = .ok authors ∧
        (allTags.run (t.store draw)).outcome = .ok tags) ∧
      ∀ quote, t.Given quote →
        quote.author ∈ authors ∧ (∀ x ∈ quote.tags, x ∈ tags) ∧ (quote.tags.map Tag.id).Nodup := by
  refine ⟨sortedBy AuthorRow.id t.authors, sortedBy TagRow.id t.tags,
    ⟨sortedBy_strict keyed.authors, fun a => mem_sortedBy⟩,
    ⟨sortedBy_strict keyed.tags, fun x => mem_sortedBy⟩, ?_⟩
  intro authors tags
  refine ⟨fun draw => ⟨outcome_allAuthors t draw, outcome_allTags t draw⟩, fun quote given => ?_⟩
  obtain ⟨a, mem, r, -, shows⟩ := backed_of_given keyed given
  obtain ⟨xs, tagged, shown⟩ := shows.tags
  refine ⟨?_, fun x there => ?_, ?_⟩
  · rw [shows.author]
    exact List.mem_map_of_mem (mem_sortedBy.2 mem)
  · rw [shown] at there
    obtain ⟨row, inside, rfl⟩ := List.mem_map.1 there
    exact List.mem_map_of_mem (mem_sortedBy.2 ((tagged.2 row).1 inside).1)
  · rw [shown, List.map_map]
    exact tagged.nodup

/-- The second quote of an author who shares a handle with a later one, and has null columns. -/
theorem listings_agree_shared :
    let six : Quote := ⟨6, "p6", ⟨1, "", "A", "", "ada"⟩, "six", "", "", [⟨7, "early"⟩, ⟨8, "late"⟩]⟩
    shared.Keyed ∧
      ((randomQuoteByAuthor (.pick 1) (.string "ada")).run (shared.store 0)).outcome = .ok six ∧
      shared.Given six ∧ ∃ authors tags,
        (allAuthors.run (shared.store 0)).outcome = .ok authors ∧
        (allTags.run (shared.store 0)).outcome = .ok tags ∧
        six.author ∈ authors ∧ (∀ x ∈ six.tags, x ∈ tags) ∧ (six.tags.map Tag.id).Nodup := by
  intro six
  have picked : ((randomQuoteByAuthor (.pick 1) (.string "ada")).run (shared.store 0)).outcome =
      .ok six := by cbv
  obtain ⟨_, _, -, -, listings, shown⟩ := listings_agree shared keyed_shared
  exact ⟨keyed_shared, picked, .picked picked, _, _, (listings 0).1, (listings 0).2,
    shown six (.picked picked)⟩

end Tables
end QuoteService
