import QuoteService.Assembly
import QuoteService.Proofs.Repository.Order

/-! Plans with a script: the lookups that a plan makes of a repository, which may change its mind with
every answer and fail at any. A run goes through the script to its end, or to the first lookup that
fails or finds no row, or up to a row that cannot be read. -/
namespace QuoteService

namespace Lookup

/-- What a lookup looks for, in the words of a failure. -/
def resource : Lookup → String
  | .randomQuote | .quotesByAuthorId _ => "Quote"
  | .authorById _ | .authorByHandle _ | .authors => "Author"
  | .tagIdsByQuoteId _ | .tagById _ | .tags => "Tag"

/-- A single row was asked for, and there is none. -/
def Missing : (q : Lookup) → q.Answer → Prop
  | .randomQuote, row | .authorById _, row | .authorByHandle _, row | .tagById _, row => row = none
  | .authors, _ | .tags, _ | .quotesByAuthorId _, _ | .tagIdsByQuoteId _, _ => False

/-- A row that is no entity of the kind that was asked for. -/
def Misreads : Lookup → Row → Failure → Prop
  | .authorById _, row, f | .authorByHandle _, row, f | .authors, row, f => Author.ofRow row = .error f
  | .tagById _, row, f | .tags, row, f => Tag.ofRow row = .error f
  | .randomQuote, row, f | .quotesByAuthorId _, row, f =>
    ∃ author tags, Quote.ofRow row author tags = .error f
  | .tagIdsByQuoteId _, _, _ => False

end Lookup

namespace Repository

variable {repo : Repository} {caller : String} {n : Nat} {q : Lookup}

/-- The answer to a lookup after `n` others; nothing where the repository fails. -/
def heard (repo : Repository) (n : Nat) (q : Lookup) : q.Answer :=
  (repo n q).toOption.getD q.nothing

theorem heard_eq {a : q.Answer} (answer : repo n q = .ok a) : repo.heard n q = a := by
  rw [heard, answer]
  rfl

/-- A lookup that goes on: it neither fails nor finds no row. -/
def Answers (repo : Repository) (n : Nat) (q : Lookup) : Prop :=
  ∃ a, repo n q = .ok a ∧ ¬ q.Missing a

/-- The failure that a lookup ends a run with: that of the repository as it is, or that there is no
row, as seen by the caller. -/
inductive Refuses (repo : Repository) (caller : String) (n : Nat) (q : Lookup) : Failure → Prop
  | failed {f : Failure} (answer : repo n q = .error f) : Refuses repo caller n q f
  | missing {a : q.Answer} (answer : repo n q = .ok a) (none : q.Missing a) :
    Refuses repo caller n q (Assembly.absent q.resource caller q)

/-- Lookups one after the other, of which all go on. -/
def Answered (repo : Repository) : (n : Nat) → List Lookup → Prop
  | _, [] => True
  | n, q :: rest => repo.Answers n q ∧ repo.Answered (n + 1) rest

/-- One of the lookups was answered with a row that cannot be read. -/
def Misread (repo : Repository) : (n : Nat) → List Lookup → Failure → Prop
  | _, [], _ => False
  | n, q :: rest, f =>
    (∃ row ∈ q.rows (repo.heard n q), q.Misreads row f) ∨ repo.Misread (n + 1) rest f

theorem answered_append (calls more : List Lookup) :
    repo.Answered n (calls ++ more) ↔
      repo.Answered n calls ∧ repo.Answered (n + calls.length) more := by
  induction calls generalizing n with
  | nil => simp [Answered]
  | cons q rest ih =>
    have later : n + 1 + rest.length = n + (rest.length + 1) := by omega
    simp only [List.cons_append, Answered, ih, List.length_cons, later, and_assoc]

theorem misread_append (calls more : List Lookup) (f : Failure) :
    repo.Misread n (calls ++ more) f ↔
      repo.Misread n calls f ∨ repo.Misread (n + calls.length) more f := by
  induction calls generalizing n with
  | nil => simp [Misread]
  | cons q rest ih =>
    have later : n + 1 + rest.length = n + (rest.length + 1) := by omega
    simp only [List.cons_append, Misread, ih, List.length_cons, later, or_assoc]

/-- All rows that a repository gives can be read as what was asked for. -/
def Readable (repo : Repository) : Prop :=
  ∀ n q a, repo n q = .ok a → ∀ row ∈ q.rows a, ∀ f, ¬ q.Misreads row f

theorem Readable.not_misread (readable : repo.Readable) (calls : List Lookup) (f : Failure) :
    ¬ repo.Misread n calls f := by
  induction calls generalizing n with
  | nil => exact id
  | cons q rest ih =>
    rintro (⟨row, mem, misread⟩ | later)
    · cases answer : repo n q with
      | error g =>
        have none : q.rows (repo.heard n q) = [] := by
          rw [heard, answer]
          cases q <;> rfl
        rw [none] at mem
        cases mem
      | ok a =>
        rw [heard_eq answer] at mem
        exact readable n q a answer row mem f misread
    · exact ih later

end Repository

section Parts

variable {α β : Type}

/-- The lookups for items one after the other, each list of them from where the one before has ended. -/
def callsFrom (calls : Nat → α → List Lookup) : Nat → List α → List Lookup
  | _, [] => []
  | n, a :: rest => calls n a ++ callsFrom calls (n + (calls n a).length) rest

/-- Results of items one after the other: each is of a kind that its item and its position give. -/
inductive Gathered (calls : Nat → α → List Lookup) (good : Nat → α → β → Prop) :
    Nat → List α → List β → Prop
  | nil (n : Nat) : Gathered calls good n [] []
  | cons {n : Nat} {a : α} {rest : List α} {b : β} {bs : List β} (first : good n a b)
    (others : Gathered calls good (n + (calls n a).length) rest bs) :
    Gathered calls good n (a :: rest) (b :: bs)

theorem callsFrom_singleton (q : α → Lookup) (n : Nat) (items : List α) :
    callsFrom (fun _ a => [q a]) n items = items.map q := by
  induction items generalizing n with
  | nil => rfl
  | cons a rest ih =>
    rw [callsFrom, ih]
    rfl

theorem mem_callsFrom {calls : Nat → α → List Lookup} {n : Nat} {items : List α} {q : Lookup}
    (mem : q ∈ callsFrom calls n items) : ∃ m, ∃ a ∈ items, q ∈ calls m a := by
  induction items generalizing n with
  | nil => cases mem
  | cons a rest ih =>
    obtain own | later := List.mem_append.1 mem
    · exact ⟨n, a, List.mem_cons_self, own⟩
    · obtain ⟨m, b, there, call⟩ := ih later
      exact ⟨m, b, List.mem_cons_of_mem a there, call⟩

namespace Gathered

variable {calls : Nat → α → List Lookup} {good : Nat → α → β → Prop} {n : Nat} {items : List α}
  {bs : List β}

/-- Nothing is left out and nothing is added. -/
theorem length_eq (h : Gathered calls good n items bs) : bs.length = items.length := by
  induction h with
  | nil => rfl
  | cons first others ih => rw [List.length_cons, List.length_cons, ih]

end Gathered

end Parts

namespace Plan

variable {α β : Type} {repo : Repository} {caller : String} {n : Nat} {calls more : List Lookup}
  {good : α → Prop} {fine : β → Prop} {given own : Failure → Prop}

/-- A run that keeps to a script. `given` are the failures to read that come of rows from before. -/
inductive Follows (repo : Repository) (caller : String) (n : Nat) (calls : List Lookup)
    (good : α → Prop) (given : Failure → Prop) : Run α → Prop
  | finished {a : α} (answered : repo.Answered n calls) (value : good a) :
    Follows repo caller n calls good given ⟨.ok a, calls⟩
  | refused {before after : List Lookup} {q : Lookup} {f : Failure}
    (split : calls = before ++ q :: after) (answered : repo.Answered n before)
    (refusal : repo.Refuses caller (n + before.length) q f) :
    Follows repo caller n calls good given ⟨.error f, before ++ [q]⟩
  | misread {before after : List Lookup} {f : Failure} (split : calls = before ++ after)
    (answered : repo.Answered n before) (reason : given f ∨ repo.Misread n before f) :
    Follows repo caller n calls good given ⟨.error f, before⟩

/-- Nothing is asked that is not in the script. -/
theorem Follows.lookups_prefix {run : Run α} (h : Follows repo caller n calls good given run) :
    run.lookups <+: calls := by
  cases h with
  | finished => exact List.prefix_rfl
  | @refused before after q f split =>
    exact ⟨after, by rw [split, List.append_assoc, List.singleton_append]⟩
  | @misread before after f split => exact ⟨after, split.symm⟩

theorem follows_done {a : α} (value : good a) :
    Follows repo caller n [] good given (runFrom repo n (.done a)) :=
  .finished trivial value

theorem Follows.mono {run : Run α} {weak : α → Prop} (h : Follows repo caller n calls good given run)
    (value : ∀ a, good a → weak a) (reason : ∀ f, given f → own f) :
    Follows repo caller n calls weak own run := by
  cases h with
  | finished answered made => exact .finished answered (value _ made)
  | refused split answered refusal => exact .refused split answered refusal
  | misread split answered unread => exact .misread split answered (unread.imp_left (reason _))

/-- The script of a plan in two parts. The rows that the second reads were answered to the first, or
come from before. -/
theorem Follows.plan_bind {plan : Plan α} {next : α → Plan β}
    (h : Follows repo caller n calls good given (runFrom repo n plan))
    (after : ∀ a, good a → Follows repo caller (n + calls.length) more fine own
      (runFrom repo (n + calls.length) (next a)))
    (known : ∀ f, own f → given f ∨ repo.Misread n calls f) :
    Follows repo caller n (calls ++ more) fine given (runFrom repo n (plan.bind next)) := by
  rw [runFrom_bind]
  generalize runFrom repo n plan = first at h
  cases h with
  | @finished a answered value =>
    -- where the second part is cut, the whole script of the first comes before the cut
    have second := after a value
    dsimp only
    generalize runFrom repo (n + calls.length) (next a) = rest at second
    cases second with
    | finished later value =>
      exact .finished ((Repository.answered_append _ _).2 ⟨answered, later⟩) value
    | @refused before tail q f split later refusal =>
      rw [← List.append_assoc]
      refine .refused (by rw [split, List.append_assoc])
        ((Repository.answered_append _ _).2 ⟨answered, later⟩) ?_
      rwa [List.length_append, ← Nat.add_assoc]
    | @misread before tail f split later reason =>
      refine .misread (by rw [split, List.append_assoc])
        ((Repository.answered_append _ _).2 ⟨answered, later⟩) ?_
      rw [Repository.misread_append, ← or_assoc]
      exact reason.imp_left (known f)
  | @refused before tail q f split answered refusal =>
    exact .refused (by rw [split, List.append_assoc, List.cons_append]) answered refusal
  | @misread before tail f split answered reason =>
    exact .misread (by rw [split, List.append_assoc]) answered reason

theorem Follows.bind {plan : Plan α} {next : α → Plan β}
    (h : Follows repo caller n calls good given (runFrom repo n plan))
    (after : ∀ a, good a → Follows repo caller (n + calls.length) more fine own
      (runFrom repo (n + calls.length) (next a)))
    (known : ∀ f, own f → given f ∨ repo.Misread n calls f) :
    Follows repo caller n (calls ++ more) fine given (runFrom repo n (plan >>= next)) :=
  h.plan_bind after known

/-- What is made of the value of a plan needs no script. -/
theorem Follows.map {plan : Plan α} {make : α → β}
    (h : Follows repo caller n calls good given (runFrom repo n plan))
    (value : ∀ a, good a → fine (make a)) :
    Follows repo caller n calls fine given (runFrom repo n (plan.bind fun a => .done (make a))) := by
  have last : Follows repo caller n (calls ++ []) fine given
      (runFrom repo n (plan.bind fun a => .done (make a))) :=
    h.plan_bind (fun a made => follows_done (value a made)) fun f => .inl
  rwa [List.append_nil] at last

theorem follows_ofResult (result : Except Failure α) :
    Follows repo caller n [] (fun a => result = .ok a) (fun f => result = .error f)
      (runFrom repo n (ofResult result)) := by
  cases result with
  | ok a => exact .finished trivial rfl
  | error f => exact .misread (List.append_nil []).symm trivial (.inl rfl)

/-- One lookup, and what is read from its answer. -/
theorem follows_ask {q : Lookup} {next : q.Answer → Plan α}
    (missing : ∀ a, q.Missing a → next a = .fail (Assembly.absent q.resource caller q))
    (found : ∀ a, repo n q = .ok a → ¬ q.Missing a → ∃ result, next a = ofResult result ∧
      (∀ b, result = .ok b → good b) ∧
      ∀ f, result = .error f → ∃ row ∈ q.rows a, q.Misreads row f) :
    Follows repo caller n [q] good given (runFrom repo n (.ask q next)) := by
  have split : [q] = [] ++ q :: [] := rfl
  cases answer : repo n q with
  | error f =>
    simp only [runFrom, answer]
    exact .refused split trivial (.failed answer)
  | ok a =>
    simp only [runFrom, answer]
    by_cases none : q.Missing a
    · rw [missing a none]
      exact .refused split trivial (.missing answer none)
    · have answered : repo.Answered n [q] := ⟨⟨a, answer, none⟩, trivial⟩
      obtain ⟨result, made, value, misread⟩ := found a answer none
      rw [made]
      cases result with
      | ok b => exact .finished answered (value b rfl)
      | error f =>
        obtain ⟨row, mem, unread⟩ := misread f rfl
        refine .misread (List.append_nil [q]).symm answered (.inr (.inl ⟨row, ?_, unread⟩))
        rwa [Repository.heard_eq answer]

/-- A lookup that gives a list goes on, if it does not fail. -/
theorem follows_look {q : Lookup} (list : ∀ a, ¬ q.Missing a) :
    Follows repo caller n [q] (fun a => repo n q = .ok a) given (runFrom repo n (look q)) := by
  refine follows_ask (fun a none => absurd none (list a)) fun a answer _ => ⟨.ok a, rfl, ?_, ?_⟩
  · rintro b ⟨⟩
    exact answer
  · rintro f ⟨⟩

theorem follows_each {calls : Nat → α → List Lookup} {good : Nat → α → β → Prop}
    {plan : α → Plan β} {items : List α}
    (parts : ∀ a ∈ items, ∀ n, Follows repo caller n (calls n a) (good n a) given
      (runFrom repo n (plan a))) :
    Follows repo caller n (callsFrom calls n items) (Gathered calls good n items) given
      (runFrom repo n (each plan items)) := by
  induction items generalizing n with
  | nil => exact follows_done (.nil n)
  | cons a rest ih =>
    have later (m : Nat) := ih (n := m) fun c mem => parts c (List.mem_cons_of_mem a mem)
    refine (parts a List.mem_cons_self n).plan_bind (fun b first => ?_) fun f => .inl
    exact (later (n + (calls n a).length)).map fun bs others => .cons first others

end Plan
end QuoteService
