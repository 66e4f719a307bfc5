import Mathlib.Data.Multiset.MapFold
import QuoteService.Repository.Plan

/-! Plans seen through a view that hides an order. What a plan is worth under a view does not depend on
when it is run; and a plan for each of some items is worth the same in any order of the items, so long
as they all fail alike. -/
namespace QuoteService

section Gathering

variable {α β : Type} {f : α → Option β}

/-- What is found for all items, in no order; nothing if it is missing for one of them. -/
def gather (f : α → Option β) (items : List α) : Option (Multiset β) :=
  (items.mapM f).map Multiset.ofList

@[simp] theorem gather_nil : gather f [] = some 0 := rfl

@[simp] theorem gather_cons (a : α) (rest : List α) :
    gather f (a :: rest) = (f a).bind fun b => (gather f rest).map (b ::ₘ ·) := by
  simp only [gather, List.mapM_cons]
  cases f a with
  | none => rfl
  | some b => cases rest.mapM f <;> rfl

/-- Which of two missing items comes first does not matter. -/
theorem gather_perm {items others : List α} (same : items.Perm others) :
    gather f items = gather f others := by
  induction same with
  | nil => rfl
  | cons a _ ih => rw [gather_cons, gather_cons, ih]
  | swap a b rest =>
    simp only [gather_cons]
    cases f a with
    | none => cases f b <;> rfl
    | some c =>
      cases f b with
      | none => rfl
      | some d => cases gather f rest <;> simp [Multiset.cons_swap]
  | trans _ _ first second => exact first.trans second

end Gathering

section Views

variable {α γ : Type} {view : α → γ} {result : Except Failure α}

theorem map_eq_error {f : Failure} : result.map view = .error f ↔ result = .error f := by
  cases result <;> simp [Except.map]

theorem map_eq_ok {c : γ} : result.map view = .ok c ↔ ∃ a, result = .ok a ∧ view a = c := by
  cases result <;> simp [Except.map]

end Views

/-- What is there, or the failure that stands for its absence. -/
abbrev orFail {α : Type} (failure : Failure) (found : Option α) : Except Failure α :=
  found.elim (.error failure) .ok

section Absence

variable {α : Type} {failure f : Failure} {found : Option α} {a : α}

theorem orFail_eq_ok : orFail failure found = .ok a ↔ found = some a := by
  cases found <;> simp [orFail]

theorem orFail_eq_error : orFail failure found = .error f ↔ found = none ∧ failure = f := by
  cases found <;> simp [orFail]

end Absence

namespace Plan

variable {α β γ δ : Type} {repo : Repository} {view : α → γ} {seen : β → δ} {failure : Failure}

/-- Whenever it is run, a plan has the same outcome under a view. -/
def SeenAs (repo : Repository) (view : α → γ) (plan : Plan α) (worth : Except Failure γ) : Prop :=
  ∀ n, (runFrom repo n plan).outcome.map view = worth

theorem seenAs_done (a : α) : SeenAs repo view (.done a) (.ok (view a)) :=
  fun _ => rfl

theorem seenAs_fail (f : Failure) : SeenAs repo view (.fail f) (.error f) :=
  fun _ => rfl

/-- The answer to a lookup may differ from one time to another, if no more is seen of it. -/
theorem seenAs_ask {q : Lookup} {next : q.Answer → Plan α} {worth : Except Failure γ}
    (answered : ∀ n, ∃ a, repo n q = .ok a ∧ SeenAs repo view (next a) worth) :
    SeenAs repo view (look q >>= next) worth := by
  intro n
  obtain ⟨a, answer, later⟩ := answered n
  have one : look q >>= next = .ask q next := rfl
  simp only [one, runFrom, answer]
  exact later (n + 1)

theorem SeenAs.plan_bind {plan : Plan α} {worth : Except Failure γ} (h : SeenAs repo view plan worth)
    {next : α → Plan β} {after : γ → Except Failure δ}
    (parts : ∀ a, worth = .ok (view a) → SeenAs repo seen (next a) (after (view a))) :
    SeenAs repo seen (plan.bind next) (worth.bind after) := by
  intro n
  have first := h n
  rw [runFrom_bind]
  cases outcome : (runFrom repo n plan).outcome with
  | error f =>
    rw [outcome] at first
    simp only [← first, outcome, Except.map, Except.bind]
  | ok a =>
    rw [outcome] at first
    simp only [← first, outcome]
    exact parts a first.symm _

/-- Items that all fail alike. The first of them that fails ends the run, but the failure does not tell
which it was, nor whether others fail. -/
theorem SeenAs.each {plan : α → Plan β} {found : α → Option δ} {items : List α}
    (parts : ∀ a ∈ items, SeenAs repo seen (plan a) (orFail failure (found a))) :
    SeenAs repo (fun bs => Multiset.ofList (bs.map seen)) (Plan.each plan items)
      (orFail failure (gather found items)) := by
  induction items with
  | nil => exact seenAs_done []
  | cons a rest ih =>
    have worth : orFail failure (gather found (a :: rest)) =
        (orFail failure (found a)).bind fun c =>
          (orFail failure (gather found rest)).bind fun cs => .ok (c ::ₘ cs) := by
      rw [gather_cons]
      cases found a with
      | none => rfl
      | some c => cases gather found rest <;> rfl
    rw [worth]
    refine (parts a List.mem_cons_self).plan_bind fun b _ => ?_
    refine (ih fun c mem => parts c (List.mem_cons_of_mem a mem)).plan_bind fun bs _ => ?_
    exact seenAs_done (b :: bs)

/-- Items that need no lookup, and are all read. -/
theorem each_ofResult {read : α → Except Failure β} {items : List α}
    (fine : ∀ a ∈ items, ∃ b, read a = .ok b) :
    Plan.each (fun a => ofResult (read a)) items =
      .done (items.filterMap fun a => (read a).toOption) := by
  induction items with
  | nil => rfl
  | cons a rest ih =>
    obtain ⟨b, first⟩ := fine a List.mem_cons_self
    rw [Plan.each, ih fun c mem => fine c (List.mem_cons_of_mem a mem), first]
    simp only [List.filterMap_cons, first]
    rfl

/-- Runs that look alike both fail in the same way, or both succeed with values that look alike. -/
theorem SeenAs.outcomes {plan : Plan α} {worth : Except Failure γ} {other : Repository}
    (h : SeenAs repo view plan worth) (k : SeenAs other view plan worth) :
    (∃ f, worth = .error f ∧ (plan.run repo).outcome = .error f ∧
      (plan.run other).outcome = .error f) ∨
    ∃ a b, (plan.run repo).outcome = .ok a ∧ (plan.run other).outcome = .ok b ∧ view a = view b := by
  have first : (plan.run repo).outcome.map view = worth := h 0
  have second : (plan.run other).outcome.map view = worth := k 0
  cases worth with
  | error f => exact .inl ⟨f, rfl, map_eq_error.1 first, map_eq_error.1 second⟩
  | ok c =>
    obtain ⟨a, one, same⟩ := map_eq_ok.1 first
    obtain ⟨b, two, alike⟩ := map_eq_ok.1 second
    exact .inr ⟨a, b, one, two, same.trans alike.symm⟩

end Plan
end QuoteService
