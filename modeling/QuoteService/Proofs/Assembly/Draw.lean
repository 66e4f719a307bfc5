import QuoteService.Assembly
import QuoteService.Database.Tables
import QuoteService.Proofs.Plan.Alike
import QuoteService.Proofs.Plan.Endings
import QuoteService.Repository.Collection

/-! A drawn quote is one of those that are listed: the draw comes after all of them are resolved, and
fails wherever the list does. -/
namespace QuoteService

/-- Failures that differ at most in the operation that the tag starts with. -/
inductive Failure.Renamed (caller other : String) : Failure → Failure → Prop
  | same (f : Failure) : Renamed caller other f f
  | caller (e : ServiceError Failure) (site : String) (tagged : e.tag = caller ++ "." ++ site) :
    Renamed caller other (.service e) (.service { e with tag := other ++ "." ++ site })

namespace Assembly
open Plan

section Callers

variable (caller other : String)

/-- Plans that differ in the operation they name. -/
abbrev SameBut {α : Type} : Plan α → Plan α → Prop := Alike (Failure.Renamed caller other)

theorem SameBut.refl {α : Type} (plan : Plan α) : SameBut caller other plan plan :=
  Alike.refl Failure.Renamed.same plan

theorem sameBut_present (resource : String) (q : Lookup) (row : Option Row) :
    SameBut caller other (present resource caller q row) (present resource other q row) := by
  cases row with
  | some row => exact .done row
  | none => exact .fail (.caller _ q.name rfl)

theorem sameBut_tag (id : Json) : SameBut caller other (tag caller id) (tag other id) := by
  refine (SameBut.refl _ _ _).bind fun row => ?_
  exact (sameBut_present _ _ _ _ row).bind fun row => SameBut.refl _ _ _

theorem sameBut_tagsOf (quoteId : Json) :
    SameBut caller other (tagsOf caller quoteId) (tagsOf other quoteId) := by
  refine (SameBut.refl _ _ _).bind fun ids => ?_
  exact Alike.each (sameBut_tag caller other) ids

theorem sameBut_authorByHandle (handle : Json) :
    SameBut caller other (authorByHandle caller handle) (authorByHandle other handle) := by
  refine (SameBut.refl _ _ _).bind fun row => ?_
  exact (sameBut_present _ _ _ _ row).bind fun row => SameBut.refl _ _ _

theorem sameBut_quoteBy (author : Author) (row : Row) :
    SameBut caller other (quoteBy caller author row) (quoteBy other author row) := by
  refine (SameBut.refl _ _ _).bind fun id => ?_
  exact (sameBut_tagsOf _ _ id).bind fun tags => SameBut.refl _ _ _

theorem sameBut_quotesByHandle (handle : Json) :
    SameBut caller other (quotesByHandle caller handle) (quotesByHandle other handle) := by
  refine (sameBut_authorByHandle _ _ handle).bind fun author => ?_
  refine (SameBut.refl _ _ _).bind fun rows => ?_
  exact Alike.each (sameBut_quoteBy caller other author) rows

end Callers

section Dangling

/-- Whenever a lookup is answered, this is the answer; it may fail at any time. -/
def Tells (repo : Repository) (q : Lookup) (a : q.Answer) : Prop :=
  ∀ n b, repo n q = .ok b → b = a

/-- The quote of a row is linked to a tag that has no row. -/
def LinkDangles (repo : Repository) (row : Row) : Prop :=
  ∃ id ids tagId, row.cell "id" = .ok id ∧ Tells repo (.tagIdsByQuoteId id) ids ∧
    tagId ∈ ids ∧ Tells repo (.tagById tagId) none

/-- Some quote of the author with a handle has such a link. -/
def Dangles (repo : Repository) (handle : Json) : Prop :=
  ∃ authorRow author rows, Tells repo (.authorByHandle handle) (some authorRow) ∧
    Author.ofRow authorRow = .ok author ∧
    Tells repo (.quotesByAuthorId (.integer author.id)) rows ∧
    ∃ row ∈ rows, LinkDangles repo row

variable {repo : Repository} {caller : String} {n : Nat}

theorem Tells.look {q : Lookup} {a b : q.Answer} (tells : Tells repo q a)
    (ok : (runFrom repo n (look q)).outcome = .ok b) : b = a :=
  tells n b (runFrom_look_ok.1 ok)

theorem tag_missing {id : Json} (missing : Tells repo (.tagById id) none) (x : Tag) :
    (runFrom repo n (tag caller id)).outcome ≠ .ok x := by
  intro ok
  obtain ⟨row, m, found, rest⟩ := runFrom_bind_ok ok
  obtain rfl : row = none := missing.look found
  obtain ⟨row, k, there, -⟩ := runFrom_bind_ok rest
  cases there

theorem quoteBy_dangling {row : Row} (dangles : LinkDangles repo row) (author : Author)
    (quote : Quote) : (runFrom repo n (quoteBy caller author row)).outcome ≠ .ok quote := by
  obtain ⟨id, ids, tagId, key, links, link, missing⟩ := dangles
  intro ok
  obtain ⟨id', m, cell, rest⟩ := runFrom_bind_ok ok
  obtain rfl : id = id' := by
    rw [runFrom_ofResult_ok, key] at cell
    exact Except.ok.inj cell
  obtain ⟨tags, k, tagged, -⟩ := runFrom_bind_ok rest
  obtain ⟨found, l, linked, each⟩ := runFrom_bind_ok tagged
  obtain rfl : found = ids := links.look linked
  obtain ⟨x, j, read⟩ := runFrom_each_ok each link
  exact tag_missing missing x read

theorem authorByHandle_told {handle : Json} {row : Row} {author found : Author}
    (named : Tells repo (.authorByHandle handle) (some row)) (read : Author.ofRow row = .ok author)
    (ok : (runFrom repo n (authorByHandle caller handle)).outcome = .ok found) : found = author := by
  obtain ⟨row', m, looked, rest⟩ := runFrom_bind_ok ok
  obtain rfl : row' = some row := named.look looked
  obtain ⟨row', k, there, made⟩ := runFrom_bind_ok rest
  obtain rfl : row = row' := Except.ok.inj there
  rw [runFrom_ofResult_ok, read] at made
  exact (Except.ok.inj made).symm

/-- Then no list of the author's quotes is given. -/
theorem quotesByHandle_dangling {handle : Json} (dangles : Dangles repo handle)
    (quotes : List Quote) : (runFrom repo n (quotesByHandle caller handle)).outcome ≠ .ok quotes := by
  obtain ⟨authorRow, author, rows, named, read, listed, row, mem, link⟩ := dangles
  intro ok
  obtain ⟨found, m, made, rest⟩ := runFrom_bind_ok ok
  obtain rfl : found = author := authorByHandle_told named read made
  obtain ⟨rows', k, looked, each⟩ := runFrom_bind_ok rest
  obtain rfl : rows' = rows := listed.look looked
  obtain ⟨quote, j, assembled⟩ := runFrom_each_ok each mem
  exact quoteBy_dangling link found quote assembled

end Dangling

section Draws

/-- A draw makes no lookups. -/
theorem run_randomQuoteByAuthor (repo : Repository) (handle : Json) (draw : Draw) :
    (randomQuoteByAuthor draw handle).run repo =
      let all := (quotesByHandle "random_quote_by_author" handle).run repo
      ⟨all.outcome.bind (drawn draw), all.lookups⟩ := by
  have parts := runFrom_bind repo (quotesByHandle "random_quote_by_author" handle)
    (fun quotes => ofResult (drawn draw quotes)) 0
  refine parts.trans ?_
  simp only [run]
  cases (runFrom repo 0 (quotesByHandle "random_quote_by_author" handle)).outcome with
  | error f => rfl
  | ok quotes =>
    have stop (n : Nat) : runFrom repo n (ofResult (drawn draw quotes)) =
        ⟨drawn draw quotes, []⟩ := by
      cases drawn draw quotes <;> rfl
    simp only [stop, List.append_nil]
    rfl

theorem drawn_some {quotes : List Quote} (some : 0 < quotes.length) (draw : Draw) :
    drawn draw quotes = .ok (quotes.get (draw quotes.length some)) :=
  dif_pos some

/-- Every quote of a list is drawn by some draw, and no other is. -/
theorem mem_iff_drawn {quotes : List Quote} (some : 0 < quotes.length) (q : Quote) :
    q ∈ quotes ↔ ∃ draw, drawn draw quotes = .ok q := by
  constructor
  · intro mem
    obtain ⟨i, rfl⟩ := List.mem_iff_get.1 mem
    refine ⟨Draw.pick i.val, ?_⟩
    rw [drawn_some some]
    congr 2
    apply Fin.ext
    simp only [Draw.pick]
    rw [Int.emod_eq_of_lt (by omega) (by omega)]
    rfl
  · rintro ⟨draw, one⟩
    rw [drawn_some some] at one
    rw [← Except.ok.inj one]
    exact List.get_mem _ _

/-- Drawing a quote of an author refines listing them. It makes the same lookups; where there is a list
it gives a quote of it, each for some draw; without quotes it fails before any draw; and where the list
fails it fails alike, under its own name. So a tag without a row fails it whatever the draw. -/
theorem randomQuoteByAuthor_refines (repo : Repository) (handle : Json) :
    let listed := (quotesByAuthor handle).run repo
    let chosen (draw : Draw) := (randomQuoteByAuthor draw handle).run repo
    (∀ draw, (chosen draw).lookups = listed.lookups) ∧
      (∀ quotes, listed.outcome = .ok quotes →
        (∀ some : 0 < quotes.length,
          (∀ draw, (chosen draw).outcome = .ok (quotes.get (draw quotes.length some))) ∧
            ∀ q, q ∈ quotes ↔ ∃ draw, (chosen draw).outcome = .ok q) ∧
        (quotes = [] → ∀ draw, (chosen draw).outcome = .error (.service
          ⟨.notFound, "Quote not found", "random_quote_by_author.no_quotes_for_author",
            .resourceNotFound, .warning, 404, none⟩))) ∧
      (∀ f, listed.outcome = .error f →
        ∃ g, Failure.Renamed "quotes_by_author" "random_quote_by_author" f g ∧
          ∀ draw, (chosen draw).outcome = .error g) ∧
      (Dangles repo handle → ∀ draw, ∃ f, (chosen draw).outcome = .error f) := by
  intro listed chosen
  let all := (quotesByHandle "random_quote_by_author" handle).run repo
  have shape (draw : Draw) : chosen draw = ⟨all.outcome.bind (drawn draw), all.lookups⟩ :=
    run_randomQuoteByAuthor repo handle draw
  obtain ⟨lookups, results⟩ : listed.lookups = all.lookups ∧ AlikeResults _ listed.outcome all.outcome :=
    (sameBut_quotesByHandle "quotes_by_author" "random_quote_by_author" handle).runFrom
      Failure.Renamed.same repo 0
  refine ⟨fun draw => ?_, fun quotes ok => ?_, fun f failed => ?_, fun dangles draw => ?_⟩
  · rw [shape, lookups]
  · rw [ok] at results
    have outcome (draw : Draw) : (chosen draw).outcome = drawn draw quotes := by
      rw [shape, results.of_ok]
      rfl
    simp only [outcome]
    refine ⟨fun some => ⟨drawn_some some, mem_iff_drawn some⟩, ?_⟩
    rintro rfl draw
    rfl
  · rw [failed] at results
    obtain ⟨g, renamed, same⟩ := results.of_error
    refine ⟨g, renamed, fun draw => ?_⟩
    rw [shape, same]
    rfl
  · cases outcome : all.outcome with
    | error f => exact ⟨f, by rw [shape, outcome]; rfl⟩
    | ok quotes => exact absurd outcome (quotesByHandle_dangling dangles quotes)

/-- An author with two quotes, one without any, and one whose quote has a tag without a row. -/
def shelf : Collection where
  authors := [AuthorRow.toRow ⟨1, none, "Ada", none, some "ada"⟩,
    AuthorRow.toRow ⟨2, none, "Eve", none, some "eve"⟩,
    AuthorRow.toRow ⟨3, none, "Bob", none, some "bob"⟩]
  tags := [TagRow.toRow ⟨7, "early"⟩]
  quotes := [QuoteRow.toRow ⟨5, 1, "p5", "five", "", ""⟩, QuoteRow.toRow ⟨6, 1, "p6", "six", "", ""⟩,
    QuoteRow.toRow ⟨4, 3, "p4", "four", "", ""⟩]
  links := [(.integer 5, .integer 7), (.integer 6, .integer 7), (.integer 4, .integer 9)]
  randomId := .null

theorem randomQuoteByAuthor_refines_shelf :
    let repo := shelf.repository []
    let chosen (handle : String) := (randomQuoteByAuthor (Draw.pick 3) (.string handle)).run repo
    let ada : Author := ⟨1, "", "Ada", "", "ada"⟩
    let five : Quote := ⟨5, "p5", ada, "five", "", "", [⟨7, "early"⟩]⟩
    let six : Quote := ⟨6, "p6", ada, "six", "", "", [⟨7, "early"⟩]⟩
    (((quotesByAuthor (.string "ada")).run repo).outcome = .ok [five, six] ∧
      (chosen "ada").outcome = .ok six) ∧
    (((quotesByAuthor (.string "eve")).run repo).outcome = .ok [] ∧
      (chosen "eve").outcome = .error noQuotes) ∧
    (Dangles repo (.string "bob") ∧ ∃ f, (chosen "bob").outcome = .error f) := by
  intro repo chosen ada five six
  have tells (q : Lookup) : Tells repo q (shelf.answer q) := by
    intro n a told
    exact (Except.ok.inj told).symm
  refine ⟨?_, ?_, ?_⟩
  · obtain ⟨-, listed, -⟩ := randomQuoteByAuthor_refines repo (.string "ada")
    have two : ((quotesByAuthor (.string "ada")).run repo).outcome = .ok [five, six] := by rfl
    have some : 0 < [five, six].length := by decide
    have second : [five, six].get (Draw.pick 3 2 some) = six := by rfl
    exact ⟨two, (((listed _ two).1 some).1 (Draw.pick 3)).trans (congrArg Except.ok second)⟩
  · obtain ⟨-, listed, -⟩ := randomQuoteByAuthor_refines repo (.string "eve")
    have none : ((quotesByAuthor (.string "eve")).run repo).outcome = .ok [] := by rfl
    exact ⟨none, (listed [] none).2 rfl (Draw.pick 3)⟩
  · obtain ⟨-, -, -, dangling⟩ := randomQuoteByAuthor_refines repo (.string "bob")
    have dangles : Dangles repo (.string "bob") := by
      refine ⟨_, ⟨3, "", "Bob", "", "bob"⟩, _, tells (.authorByHandle (.string "bob")), rfl,
        tells (.quotesByAuthorId (.integer 3)), QuoteRow.toRow ⟨4, 3, "p4", "four", "", ""⟩, ?_,
        .integer 4, _, .integer 9, rfl, tells (.tagIdsByQuoteId (.integer 4)), ?_,
        tells (.tagById (.integer 9))⟩
      · exact List.mem_singleton.2 rfl
      · exact List.mem_singleton.2 rfl
    exact ⟨dangles, dangling dangles (Draw.pick 3)⟩

end Draws

end Assembly
end QuoteService
