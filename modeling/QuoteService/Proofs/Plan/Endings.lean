import Mathlib.Tactic.Common
import QuoteService.Repository.Plan

/-! How plans end: with values and failures of certain kinds, whatever is answered to their lookups. -/
namespace QuoteService

/-- A result whose value, or failure, is of a kind. -/
def Holds {α : Type} (good : α → Prop) (bad : Failure → Prop) : Except Failure α → Prop
  | .ok a => good a
  | .error f => bad f

/-- The failures of a repository are of a kind. -/
def Repository.FailsAs (bad : Failure → Prop) (repo : Repository) : Prop :=
  ∀ n q f, repo n q = .error f → bad f

namespace Plan

variable {α β : Type} {good : α → Prop} {fine : β → Prop} {bad : Failure → Prop}

/-- All ends of a plan are of the given kinds. -/
def Ends (good : α → Prop) (bad : Failure → Prop) : Plan α → Prop
  | .done a => good a
  | .fail f => bad f
  | .ask _ next => ∀ a, (next a).Ends good bad

theorem Ends.mono {plan : Plan α} {weak : α → Prop} (h : plan.Ends good bad)
    (weaker : ∀ a, good a → weak a) : plan.Ends weak bad := by
  induction plan with
  | done a => exact weaker a h
  | fail f => exact h
  | ask q next ih =>
    intro a
    exact ih a (h a)

theorem ends_look (q : Lookup) : (look q).Ends (fun _ => True) bad := by
  intro a
  trivial

theorem Ends.plan_bind {plan : Plan α} {next : α → Plan β} (h : plan.Ends good bad)
    (after : ∀ a, good a → (next a).Ends fine bad) : (plan.bind next).Ends fine bad := by
  induction plan with
  | done a => exact after a h
  | fail f => exact h
  | ask q answer ih =>
    intro a
    exact ih a (h a)

theorem Ends.bind {plan : Plan α} {next : α → Plan β} (h : plan.Ends good bad)
    (after : ∀ a, good a → (next a).Ends fine bad) : (plan >>= next).Ends fine bad :=
  h.plan_bind after

theorem ends_each {plan : α → Plan β} (h : ∀ a, (plan a).Ends fine bad) (items : List α) :
    (each plan items).Ends (fun bs => ∀ b ∈ bs, fine b) bad := by
  induction items with
  | nil =>
    intro b mem
    cases mem
  | cons a rest ih =>
    refine (h a).plan_bind fun b first => ih.plan_bind fun bs others => ?_
    exact List.forall_mem_cons.2 ⟨first, others⟩

theorem Ends.outcome_runFrom {plan : Plan α} {repo : Repository} (h : plan.Ends good bad)
    (fails : repo.FailsAs bad) (n : Nat) : Holds good bad (runFrom repo n plan).outcome := by
  induction plan generalizing n with
  | done a => exact h
  | fail f => exact h
  | ask q next ih =>
    cases answer : repo n q with
    | error f =>
      simp only [runFrom, answer]
      exact fails n q f answer
    | ok a =>
      simp only [runFrom, answer]
      exact ih a (h a) (n + 1)

/-- A run ends as its plan does, or with a failure of the repository. -/
theorem Ends.outcome_run {plan : Plan α} {repo : Repository} (h : plan.Ends good bad)
    (fails : repo.FailsAs bad) : Holds good bad (plan.run repo).outcome :=
  h.outcome_runFrom fails 0

section Success

variable {repo : Repository}

/-- A plan in parts succeeds only if its parts do, each at some point of the run. -/
theorem runFrom_plan_bind_ok {plan : Plan α} {next : α → Plan β} {n : Nat} {b : β}
    (ok : (runFrom repo n (plan.bind next)).outcome = .ok b) :
    ∃ a m, (runFrom repo n plan).outcome = .ok a ∧ (runFrom repo m (next a)).outcome = .ok b := by
  rw [runFrom_bind] at ok
  cases first : (runFrom repo n plan).outcome with
  | error f => simp [first] at ok
  | ok a =>
    simp only [first] at ok
    exact ⟨a, _, rfl, ok⟩

theorem runFrom_bind_ok {plan : Plan α} {next : α → Plan β} {n : Nat} {b : β}
    (ok : (runFrom repo n (plan >>= next)).outcome = .ok b) :
    ∃ a m, (runFrom repo n plan).outcome = .ok a ∧ (runFrom repo m (next a)).outcome = .ok b :=
  runFrom_plan_bind_ok ok

theorem runFrom_each_ok {plan : α → Plan β} {items : List α} {n : Nat} {bs : List β}
    (ok : (runFrom repo n (each plan items)).outcome = .ok bs) {a : α} (mem : a ∈ items) :
    ∃ b m, (runFrom repo m (plan a)).outcome = .ok b := by
  induction items generalizing n bs with
  | nil => cases mem
  | cons c rest ih =>
    obtain ⟨b, m, first, others⟩ := runFrom_plan_bind_ok ok
    obtain ⟨cs, -, others, -⟩ := runFrom_plan_bind_ok others
    obtain rfl | later := List.mem_cons.1 mem
    · exact ⟨b, n, first⟩
    · exact ih others later

theorem runFrom_look_ok {q : Lookup} {n : Nat} {a : q.Answer} :
    (runFrom repo n (look q)).outcome = .ok a ↔ repo n q = .ok a := by
  simp only [look, runFrom]
  cases repo n q <;> simp

theorem runFrom_ofResult_ok {result : Except Failure α} {n : Nat} {a : α} :
    (runFrom repo n (ofResult result)).outcome = .ok a ↔ result = .ok a := by
  cases result <;> simp [ofResult]

end Success

end Plan
end QuoteService
