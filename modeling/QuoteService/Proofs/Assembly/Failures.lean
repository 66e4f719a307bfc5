import QuoteService.Assembly
import QuoteService.Database.Store
import QuoteService.Proofs.Plan.Endings

/-! The failures of assembly: a row that is absent, a store that failed, or a value that does not fit
its column. None of them is an error of the transport. -/
namespace QuoteService

/-- A failure of neither the service nor the transport. -/
def Failure.IsPlain : Failure → Prop
  | .service _ | .http .. => False
  | _ => True

/-- A plain failure, or an error of the service: a resource that is absent, or an internal failure that
has a cause. -/
inductive Failure.IsExpected : Failure → Prop
  | absent (resource tag : String) : IsExpected (.service (.notFound resource tag none))
  | refused (tag : String) (cause : Failure) (category : Category) :
    IsExpected (.service (.internalFailure tag (some cause) category))
  | plain {f : Failure} (h : f.IsPlain) : IsExpected f

section Rows

variable {α β : Type}

theorem holds_bind {result : Except Failure α} {next : α → Except Failure β}
    {bad : Failure → Prop} (first : Holds (fun _ => True) bad result)
    (after : ∀ a, Holds (fun _ => True) bad (next a)) :
    Holds (fun _ => True) bad (result >>= next) := by
  cases result with
  | error f => exact first
  | ok a => exact after a

theorem cell_plain (row : Row) (name : String) :
    Holds (fun _ => True) Failure.IsPlain (row.cell name) := by
  unfold Row.cell
  split <;> trivial

theorem select_plain (row : Row) (names : List String) :
    Holds (fun _ => True) Failure.IsPlain (row.select names) := by
  induction names with
  | nil => trivial
  | cons name rest ih =>
    refine holds_bind (cell_plain row name) fun value => ?_
    exact holds_bind ih fun others => trivial

theorem validated_plain (model : String) (checked : Checked α) :
    Holds (fun _ => True) Failure.IsPlain (checked.validated model) := by
  cases checked <;> trivial

theorem authorOfRow_plain (row : Row) : Holds (fun _ => True) Failure.IsPlain (Author.ofRow row) :=
  holds_bind (select_plain row _) fun _ => validated_plain _ _

theorem tagOfRow_plain (row : Row) : Holds (fun _ => True) Failure.IsPlain (Tag.ofRow row) :=
  holds_bind (select_plain row _) fun _ => validated_plain _ _

theorem quoteOfRow_plain (row : Row) (author : Author) (tags : List Tag) :
    Holds (fun _ => True) Failure.IsPlain (Quote.ofRow row author tags) :=
  holds_bind (select_plain row _) fun _ => validated_plain _ _

end Rows

namespace Assembly
open Plan

/-- The data operations, by what they give. -/
inductive Operation : Type → Type
  | randomQuote : Operation Quote
  | quotesByAuthor (handle : Json) : Operation (List Quote)
  | randomQuoteByAuthor (draw : Draw) (handle : Json) : Operation Quote
  | allAuthors : Operation (List Author)
  | allTags : Operation (List Tag)

def Operation.plan {α : Type} : Operation α → Plan α
  | randomQuote => Assembly.randomQuote
  | quotesByAuthor handle => Assembly.quotesByAuthor handle
  | randomQuoteByAuthor draw handle => Assembly.randomQuoteByAuthor draw handle
  | allAuthors => Assembly.allAuthors
  | allTags => Assembly.allTags

/-- A plan that gives a value or one of the expected failures. -/
abbrev IsSafe {α : Type} (plan : Plan α) : Prop := plan.Ends (fun _ => True) Failure.IsExpected

variable {α : Type}

theorem isSafe_ofResult {result : Except Failure α}
    (h : Holds (fun _ => True) Failure.IsPlain result) : IsSafe (ofResult result) := by
  cases result with
  | ok a => trivial
  | error f => exact .plain h

theorem isSafe_each {β : Type} {plan : α → Plan β} (h : ∀ a, IsSafe (plan a)) (items : List α) :
    IsSafe (each plan items) :=
  (ends_each h items).mono fun _ _ => trivial

theorem isSafe_present (resource caller : String) (q : Lookup) (row : Option Row) :
    IsSafe (present resource caller q row) := by
  cases row with
  | some row => trivial
  | none => exact .absent _ _

theorem isSafe_tag (caller : String) (id : Json) : IsSafe (tag caller id) := by
  refine (ends_look _).bind fun row _ => ?_
  refine (isSafe_present _ _ _ row).bind fun row _ => ?_
  exact isSafe_ofResult (tagOfRow_plain row)

theorem isSafe_tagsOf (caller : String) (quoteId : Json) : IsSafe (tagsOf caller quoteId) := by
  refine (ends_look _).bind fun ids _ => ?_
  exact isSafe_each (isSafe_tag caller) ids

theorem isSafe_authorById (caller : String) (id : Json) : IsSafe (authorById caller id) := by
  refine (ends_look _).bind fun row _ => ?_
  refine (isSafe_present _ _ _ row).bind fun row _ => ?_
  exact isSafe_ofResult (authorOfRow_plain row)

theorem isSafe_authorByHandle (caller : String) (handle : Json) :
    IsSafe (authorByHandle caller handle) := by
  refine (ends_look _).bind fun row _ => ?_
  refine (isSafe_present _ _ _ row).bind fun row _ => ?_
  exact isSafe_ofResult (authorOfRow_plain row)

theorem isSafe_quoteBy (caller : String) (author : Author) (row : Row) :
    IsSafe (quoteBy caller author row) := by
  refine (isSafe_ofResult (cell_plain row "id")).bind fun id _ => ?_
  refine (isSafe_tagsOf caller id).bind fun tags _ => ?_
  exact isSafe_ofResult (quoteOfRow_plain row author tags)

theorem isSafe_quote (caller : String) (row : Row) (known : Option Author) :
    IsSafe (quote caller row known) := by
  cases known with
  | some author => exact isSafe_quoteBy caller author row
  | none =>
    refine (isSafe_ofResult (cell_plain row _)).bind fun id _ => ?_
    refine (isSafe_authorById caller id).bind fun author _ => ?_
    exact isSafe_quoteBy caller author row

theorem isSafe_quotesByHandle (caller : String) (handle : Json) :
    IsSafe (quotesByHandle caller handle) := by
  refine (isSafe_authorByHandle caller handle).bind fun author _ => ?_
  refine (ends_look _).bind fun rows _ => ?_
  exact isSafe_each (isSafe_quoteBy caller author) rows

theorem isSafe_randomQuote : IsSafe randomQuote := by
  refine (ends_look _).bind fun row _ => ?_
  refine (isSafe_present _ _ _ row).bind fun row _ => ?_
  exact isSafe_quote _ row none

theorem isSafe_quotesByAuthor (handle : Json) : IsSafe (quotesByAuthor handle) :=
  isSafe_quotesByHandle _ handle

theorem isSafe_randomQuoteByAuthor (draw : Draw) (handle : Json) :
    IsSafe (randomQuoteByAuthor draw handle) := by
  refine (isSafe_quotesByHandle _ handle).bind fun quotes _ => ?_
  unfold drawn
  split
  · trivial
  · exact .absent _ _

theorem isSafe_allAuthors : IsSafe allAuthors := by
  refine (ends_look _).bind fun rows _ => ?_
  exact isSafe_each (fun row => isSafe_ofResult (authorOfRow_plain row)) rows

theorem isSafe_allTags : IsSafe allTags := by
  refine (ends_look _).bind fun rows _ => ?_
  exact isSafe_each (fun row => isSafe_ofResult (tagOfRow_plain row)) rows

end Assembly

section Store

/-- Statements fail plainly, each in its own way or not at all. -/
def Statements.FailPlainly (statements : Statements) : Prop :=
  ∀ n q f, statements n q = .error f → f.IsPlain

theorem reported_expected {f : Failure} (plain : f.IsPlain) (q : Lookup) :
    (Store.reported q f).IsExpected := by
  unfold Store.reported
  split
  · exact .refused _ _ _
  · exact .plain plain

theorem repository_failsAs {statements : Statements} (plain : statements.FailPlainly) :
    (Store.repository statements).FailsAs Failure.IsExpected := by
  intro n q f failed
  cases answer : statements n q with
  | ok a => simp [Store.repository, answer, Except.mapError] at failed
  | error g =>
    simp only [Store.repository, answer, Except.mapError, Except.error.injEq] at failed
    rw [← failed]
    exact reported_expected (plain n q g answer) q

theorem failPlainly_failingAt {statements : Statements} (plain : statements.FailPlainly)
    (position : Nat) {failure : Failure} (h : failure.IsPlain) :
    (statements.failingAt position failure).FailPlainly := by
  intro n q f failed
  unfold Statements.failingAt at failed
  split at failed
  · cases failed
    exact h
  · exact plain n q f failed

theorem refusal?_plain {q : Lookup} {f : Failure} (refused : q.key?.bind Key.refusal? = some f) :
    f.IsPlain := by
  obtain ⟨key, -, refusal⟩ := Option.bind_eq_some_iff.1 refused
  unfold Key.refusal? at refusal
  split at refusal
  · split at refusal <;> cases refusal
    trivial
  · cases refusal
    trivial
  · cases refusal
    trivial
  · cases refusal

/-- Statements on tables fail at keys that a database does not take, and where they are told to. -/
theorem failPlainly_onTables (tables : Tables) (draw : Nat) {faults : Repository.Faults}
    (plain : ∀ fault ∈ faults, fault.2.IsPlain) :
    (Statements.onTables tables draw faults).FailPlainly := by
  intro n q f failed
  simp only [Statements.onTables, Repository.withFaults] at failed
  split at failed
  · rename_i g found
    cases failed
    obtain ⟨before, after, split, -⟩ := List.lookup_eq_some_iff.1 found
    exact plain (q.name, f) (by rw [split]; simp)
  · simp only [Statements.checked] at failed
    split at failed
    · rename_i g refused
      cases failed
      exact refusal?_plain refused
    · cases failed

end Store
end QuoteService
