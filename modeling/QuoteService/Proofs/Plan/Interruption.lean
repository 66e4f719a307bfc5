import Mathlib.Tactic.Common
import QuoteService.Repository.Plan

/-! Runs that are cut short: a repository that fails at one position ends a run there, and has made the
same lookups as one that does not fail. -/
namespace QuoteService

/-- A repository that answers as another one up to a position, and fails there. -/
structure Repository.CutAt (repo cut : Repository) (position : Nat)
    (failure : Lookup → Failure) : Prop where
  before : ∀ n < position, cut n = repo n
  fails : ∀ q, cut position q = .error (failure q)

namespace Plan

variable {α : Type} {repo cut : Repository} {failure : Lookup → Failure}

/-- The position counts from the first lookup of the plan. -/
theorem runFrom_cut (plan : Plan α) (n ahead : Nat)
    (h : repo.CutAt cut (n + ahead) failure) :
    runFrom cut n plan =
      let clean := runFrom repo n plan
      match clean.lookups[ahead]? with
      | some q => ⟨.error (failure q), clean.lookups.take (ahead + 1)⟩
      | none => clean := by
  induction plan generalizing n ahead with
  | done a => rfl
  | fail f => rfl
  | ask q next ih =>
    cases ahead with
    | zero =>
      have here : cut n q = .error (failure q) := h.fails q
      simp only [runFrom, here]
      cases repo n q <;> rfl
    | succ ahead =>
      have same : cut n q = repo n q := by rw [h.before n (by omega)]
      simp only [runFrom, same]
      cases repo n q with
      | error f => rfl
      | ok a =>
        have later : repo.CutAt cut (n + 1 + ahead) failure := by
          rwa [show n + 1 + ahead = n + (ahead + 1) by omega]
        simp only [ih a (n + 1) ahead later, List.getElem?_cons_succ]
        cases (runFrom repo (n + 1) (next a)).lookups[ahead]? <;> rfl

variable {position : Nat}

theorem run_cut (plan : Plan α) (h : repo.CutAt cut position failure) :
    plan.run cut =
      match (plan.run repo).lookups[position]? with
      | some q => ⟨.error (failure q), (plan.run repo).lookups.take (position + 1)⟩
      | none => plan.run repo :=
  runFrom_cut plan 0 position (by rwa [Nat.zero_add])

/-- A run that is over before the position is not cut short. -/
theorem run_cut_beyond (plan : Plan α) (h : repo.CutAt cut position failure)
    (ended : (plan.run repo).lookups.length ≤ position) : plan.run cut = plan.run repo := by
  rw [run_cut plan h, List.getElem?_eq_none ended]

/-- A run that reaches the position ends there. -/
theorem run_cut_within (plan : Plan α) (h : repo.CutAt cut position failure)
    (reached : position < (plan.run repo).lookups.length) :
    plan.run cut =
      ⟨.error (failure (plan.run repo).lookups[position]),
        (plan.run repo).lookups.take (position + 1)⟩ := by
  rw [run_cut plan h, List.getElem?_eq_getElem reached]

end Plan
end QuoteService
