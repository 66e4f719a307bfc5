import Mathlib.Tactic.Common
import QuoteService.Repository.Plan

/-! Plans that differ in the failures they give, and in nothing else. Against any repository they make
the same lookups, and both succeed with the same value or both fail. -/
namespace QuoteService

variable {α β : Type}

/-- Results that differ in their failures alone. -/
inductive AlikeResults (rel : Failure → Failure → Prop) : Except Failure α → Except Failure α → Prop
  | ok (a : α) : AlikeResults rel (.ok a) (.ok a)
  | error {f g : Failure} (failures : rel f g) : AlikeResults rel (.error f) (.error g)

namespace AlikeResults

variable {rel : Failure → Failure → Prop} {result : Except Failure α}

theorem of_ok {a : α} (h : AlikeResults rel (.ok a) result) : result = .ok a := by
  cases h
  rfl

theorem of_error {f : Failure} (h : AlikeResults rel (.error f) result) :
    ∃ g, rel f g ∧ result = .error g := by
  cases h with
  | error failures => exact ⟨_, failures, rfl⟩

end AlikeResults

namespace Plan

/-- Plans of one shape, with failures that are related. -/
inductive Alike (rel : Failure → Failure → Prop) : Plan α → Plan α → Prop
  | done (a : α) : Alike rel (.done a) (.done a)
  | fail {f g : Failure} (failures : rel f g) : Alike rel (.fail f) (.fail g)
  | ask (q : Lookup) {next other : q.Answer → Plan α} (after : ∀ a, Alike rel (next a) (other a)) :
    Alike rel (.ask q next) (.ask q other)

variable {rel : Failure → Failure → Prop}

theorem Alike.refl (same : ∀ f, rel f f) (plan : Plan α) : Alike rel plan plan := by
  induction plan with
  | done a => exact .done a
  | fail f => exact .fail (same f)
  | ask q next ih => exact .ask q ih

theorem Alike.plan_bind {plan other : Plan α} {next after : α → Plan β} (h : Alike rel plan other)
    (parts : ∀ a, Alike rel (next a) (after a)) : Alike rel (plan.bind next) (other.bind after) := by
  induction h with
  | done a => exact parts a
  | fail failures => exact .fail failures
  | ask q _ ih => exact .ask q ih

theorem Alike.bind {plan other : Plan α} {next after : α → Plan β} (h : Alike rel plan other)
    (parts : ∀ a, Alike rel (next a) (after a)) : Alike rel (plan >>= next) (other >>= after) :=
  h.plan_bind parts

theorem Alike.each {plan other : α → Plan β} (h : ∀ a, Alike rel (plan a) (other a))
    (items : List α) : Alike rel (each plan items) (Plan.each other items) := by
  induction items with
  | nil => exact .done []
  | cons a rest ih => exact (h a).plan_bind fun b => ih.plan_bind fun bs => .done (b :: bs)

/-- The failures of the repository itself reach both alike. -/
theorem Alike.runFrom (same : ∀ f, rel f f) {plan other : Plan α} (h : Alike rel plan other)
    (repo : Repository) (n : Nat) :
    (runFrom repo n plan).lookups = (Plan.runFrom repo n other).lookups ∧
      AlikeResults rel (Plan.runFrom repo n plan).outcome (Plan.runFrom repo n other).outcome := by
  induction h generalizing n with
  | done a => exact ⟨rfl, .ok a⟩
  | fail failures => exact ⟨rfl, .error failures⟩
  | ask q _ ih =>
    simp only [Plan.runFrom]
    cases repo n q with
    | error f => exact ⟨rfl, .error (same f)⟩
    | ok a =>
      obtain ⟨lookups, results⟩ := ih a (n + 1)
      exact ⟨congrArg (q :: ·) lookups, results⟩

end Plan
end QuoteService
