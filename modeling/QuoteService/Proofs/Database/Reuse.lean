import Mathlib
import QuoteService.Proofs.Database.Join

/-! A list of quotes looks its author up once, by the handle. Had each quote looked it up again by the
id in its own row, the list would be the same: the rows of the list are those that refer to the author
whom the handle stands for, and ids are unique. -/
namespace QuoteService
namespace Tables

open QuoteService.Assembly

/-- The quotes of a handle, each of which looks its author up again. -/
def quotesAfresh (caller : String) (handle : Json) : Plan (List Quote) := do
  let author ← authorByHandle caller handle
  let rows ← Plan.look (.quotesByAuthorId (.integer author.id))
  Plan.each (fun row => quote caller row none) rows

variable {t : Tables} (keyed : t.Keyed) (draw : Nat) (caller : String)

include keyed

/-- The author of a row is the author whose rows were asked for. -/
theorem author?_of_quotesOf {a : AuthorRow} (mem : a ∈ t.authors) {r : QuoteRow}
    (own : r ∈ t.quotesOf a.id) : t.author? r.authorId = some a :=
  (author?_eq_some keyed).2 ⟨mem, (mem_quotesOf.1 own).2.symm⟩

/-- A quote is the same whether its author is given or looked up. -/
theorem evaluate_quote_of_quotesOf {a : AuthorRow} (mem : a ∈ t.authors) {r : QuoteRow}
    (own : r ∈ t.quotesOf a.id) :
    (quote caller r.toRow none).evaluate (t.fetch draw) =
      (quoteBy caller a.entity r.toRow).evaluate (t.fetch draw) := by
  rw [evaluate_quote, author?_of_quotesOf keyed mem own, Option.elim_some, evaluate_quoteBy]

theorem evaluate_quotesAfresh (handle : String) :
    (quotesAfresh caller (.string handle)).evaluate (t.fetch draw) =
      (quotesByHandle caller (.string handle)).evaluate (t.fetch draw) := by
  rw [quotesAfresh, quotesByHandle, Plan.evaluate_bind, Plan.evaluate_bind, evaluate_authorByHandle]
  cases named : t.named? handle with
  | none => rfl
  | some a =>
    have rows (next : List Row → Plan (List Quote)) :
        (Plan.look (.quotesByAuthorId (.integer a.entity.id)) >>= next).evaluate (t.fetch draw) =
          (next ((t.quotesOf a.id).map QuoteRow.toRow)).evaluate (t.fetch draw) := by
      rw [Plan.evaluate_bind, Plan.evaluate_look]
      exact congrArg (Except.bind · _) (fetch_quotesByAuthorId t draw a.id)
    change Plan.evaluate _ (Plan.look _ >>= _) = Plan.evaluate _ (Plan.look _ >>= _)
    rw [rows, rows, Plan.evaluate_each, Plan.evaluate_each, List.mapM_map, List.mapM_map]
    exact mapM_congr fun r own =>
      evaluate_quote_of_quotesOf keyed draw caller (isNamed_of_named? named).row own

omit keyed

/-- To list the quotes of a handle with the author it stands for, and to look the author of each row
up again, comes to the same: the same quotes, or the same failure with the same tag. The second lookup
finds an author for every row, and never another one. -/
theorem quotesByAuthor_eq_quotesAfresh (t : Tables) (keyed : t.Keyed) (draw : Nat) (handle : String) :
    let caller := "quotes_by_author"
    ((quotesByAuthor (.string handle)).run (t.store draw)).outcome =
        ((quotesAfresh caller (.string handle)).run (t.store draw)).outcome ∧
      ∀ author, ((authorByHandle caller (.string handle)).run (t.store draw)).outcome = .ok author →
        ∀ n rows, t.store draw n (.quotesByAuthorId (.integer author.id)) = .ok rows →
          ∀ row ∈ rows, ∃ key, row.cell "author_id" = .ok key ∧
            ((authorById caller key).run (t.store draw)).outcome = .ok author := by
  intro caller
  refine ⟨?_, fun author found n rows listed row mem => ?_⟩
  · rw [outcome_run_store, outcome_run_store, evaluate_quotesAfresh keyed, quotesByAuthor]
  · rw [outcome_run_store, evaluate_authorByHandle] at found
    cases named : t.named? handle with
    | none => simp [named] at found
    | some a =>
      rw [named, Option.elim_some] at found
      obtain rfl := Except.ok.inj found
      have told : t.store draw n (.quotesByAuthorId (.integer a.entity.id)) =
          .ok ((t.quotesOf a.id).map QuoteRow.toRow) := by
        rw [store_eq_fetch]
        exact fetch_quotesByAuthorId t draw a.id
      rw [told] at listed
      obtain rfl := Except.ok.inj listed
      obtain ⟨r, own, rfl⟩ := List.mem_map.1 mem
      refine ⟨_, cell_authorId_quoteRow r, ?_⟩
      rw [outcome_run_store, evaluate_authorById,
        author?_of_quotesOf keyed (isNamed_of_named? named).row own, Option.elim_some]

/-- A handle of two authors: both quotes are the first one's, and find the first one again. -/
theorem quotesByAuthor_eq_quotesAfresh_shared :
    let caller := "quotes_by_author"
    let ada : Author := ⟨1, "", "A", "", "ada"⟩
    let rows := [QuoteRow.toRow ⟨5, 1, "p5", "five", "", ""⟩, QuoteRow.toRow ⟨6, 1, "p6", "six", "", ""⟩]
    shared.Keyed ∧
      ((authorByHandle caller (.string "ada")).run (shared.store 0)).outcome = .ok ada ∧
      shared.store 0 1 (.quotesByAuthorId (.integer ada.id)) = .ok rows ∧
      ((quotesAfresh caller (.string "ada")).run (shared.store 0)).outcome =
        .ok [⟨5, "p5", ada, "five", "", "", [⟨7, "early"⟩]⟩,
          ⟨6, "p6", ada, "six", "", "", [⟨7, "early"⟩, ⟨8, "late"⟩]⟩] ∧
      ∀ row ∈ rows, ∃ key, row.cell "author_id" = .ok key ∧
        ((authorById caller key).run (shared.store 0)).outcome = .ok ada := by
  intro caller ada rows
  have found : ((authorByHandle caller (.string "ada")).run (shared.store 0)).outcome = .ok ada := by
    cbv
  have listed : shared.store 0 1 (.quotesByAuthorId (.integer ada.id)) = .ok rows := by cbv
  obtain ⟨same, again⟩ := quotesByAuthor_eq_quotesAfresh shared keyed_shared 0 "ada"
  refine ⟨keyed_shared, found, listed, same.symm.trans ?_, again ada found 1 rows listed⟩
  cbv

end Tables
end QuoteService
