import QuoteService.Repository.Lookup

/-! Plans: computations that ask a repository and go on with its answer. A run keeps the lookups that
were made, in order, the failed one included. -/
namespace QuoteService

inductive Plan (α : Type) : Type where
  | done (value : α)
  | fail (failure : Failure)
  | ask (question : Lookup) (next : question.Answer → Plan α)

structure Run (α : Type) where
  outcome : Except Failure α
  lookups : List Lookup

namespace Plan

variable {α β : Type}

def bind (plan : Plan α) (next : α → Plan β) : Plan β :=
  match plan with
  | .done value => next value
  | .fail failure => .fail failure
  | .ask question answer => .ask question fun a => (answer a).bind next

instance : Monad Plan where
  pure := .done
  bind := Plan.bind

/-- One lookup. -/
def look (question : Lookup) : Plan question.Answer := .ask question .done

/-- A value that needs no lookup, or a failure. -/
def ofResult : Except Failure α → Plan α
  | .ok value => .done value
  | .error failure => .fail failure

/-- Plans for each item in order; the first failure ends all. -/
def each (plan : α → Plan β) : List α → Plan (List β)
  | [] => .done []
  | a :: rest => (plan a).bind fun b => (each plan rest).bind fun bs => .done (b :: bs)

/-- Runs a plan against a repository that has answered `count` lookups before. -/
def runFrom (repo : Repository) : (count : Nat) → Plan α → Run α
  | _, .done value => ⟨.ok value, []⟩
  | _, .fail failure => ⟨.error failure, []⟩
  | count, .ask question next =>
    match repo count question with
    | .error failure => ⟨.error failure, [question]⟩
    | .ok answer =>
      let rest := (next answer).runFrom repo (count + 1)
      ⟨rest.outcome, question :: rest.lookups⟩

def run (repo : Repository) (plan : Plan α) : Run α := plan.runFrom repo 0

@[simp] theorem runFrom_done (repo : Repository) (n : Nat) (a : α) :
    runFrom repo n (.done a) = ⟨.ok a, []⟩ := rfl

@[simp] theorem runFrom_fail (repo : Repository) (n : Nat) (f : Failure) :
    runFrom repo n (.fail f : Plan α) = ⟨.error f, []⟩ := rfl

/-- A plan in two parts runs the second where the first has stopped, if it has not failed. -/
theorem runFrom_bind (repo : Repository) (plan : Plan α) (next : α → Plan β) (n : Nat) :
    runFrom repo n (plan.bind next) =
      let first := runFrom repo n plan
      match first.outcome with
      | .error f => ⟨.error f, first.lookups⟩
      | .ok a =>
        let second := runFrom repo (n + first.lookups.length) (next a)
        ⟨second.outcome, first.lookups ++ second.lookups⟩ := by
  induction plan generalizing n with
  | done a => simp [Plan.bind]
  | fail f => simp [Plan.bind]
  | ask q answer ih =>
    simp only [Plan.bind, runFrom]
    cases repo n q with
    | error f => rfl
    | ok a =>
      simp only [ih]
      cases h : (runFrom repo (n + 1) (answer a)).outcome with
      | error f => rfl
      | ok b =>
        have : ∀ k, n + 1 + k = n + (k + 1) := by omega
        simp [this]

end Plan
end QuoteService
