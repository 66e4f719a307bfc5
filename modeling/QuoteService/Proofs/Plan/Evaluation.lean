import Mathlib.Data.List.Forall2
import Mathlib.Tactic.Common
import QuoteService.Repository.Plan

/-! What a plan is worth where every lookup has one answer, however often and whenever it is made. -/
namespace QuoteService
namespace Plan

variable {α β : Type}

/-- The outcome of a plan whose lookups have fixed answers. -/
def evaluate (answer : (q : Lookup) → Except Failure q.Answer) : Plan α → Except Failure α
  | .done a => .ok a
  | .fail f => .error f
  | .ask q next => (answer q).bind fun a => (next a).evaluate answer

variable (answer : (q : Lookup) → Except Failure q.Answer)

/-- A run sees no more of a repository than its answers. -/
theorem outcome_runFrom (plan : Plan α) (n : Nat) :
    (runFrom (fun _ q => answer q) n plan).outcome = plan.evaluate answer := by
  induction plan generalizing n with
  | done a => rfl
  | fail f => rfl
  | ask q next ih =>
    simp only [runFrom, evaluate]
    cases answer q with
    | error f => rfl
    | ok a => exact ih a (n + 1)

@[simp] theorem evaluate_done (a : α) : evaluate answer (.done a) = .ok a := rfl

@[simp] theorem evaluate_pure (a : α) : evaluate answer (pure a) = .ok a := rfl

@[simp] theorem evaluate_fail (f : Failure) : evaluate answer (.fail f : Plan α) = .error f := rfl

@[simp] theorem evaluate_look (q : Lookup) : evaluate answer (look q) = answer q := by
  cases h : answer q <;> simp [look, evaluate, h, Except.bind]

@[simp] theorem evaluate_ofResult (result : Except Failure α) :
    evaluate answer (ofResult result) = result := by
  cases result <;> rfl

theorem evaluate_plan_bind (plan : Plan α) (next : α → Plan β) :
    evaluate answer (plan.bind next) =
      (evaluate answer plan).bind fun a => evaluate answer (next a) := by
  induction plan with
  | done a => rfl
  | fail f => rfl
  | ask q after ih =>
    simp only [Plan.bind, evaluate, ih]
    cases answer q <;> rfl

@[simp] theorem evaluate_bind (plan : Plan α) (next : α → Plan β) :
    evaluate answer (plan >>= next) =
      (evaluate answer plan).bind fun a => evaluate answer (next a) :=
  evaluate_plan_bind answer plan next

@[simp] theorem evaluate_each (plan : α → Plan β) (items : List α) :
    evaluate answer (each plan items) = items.mapM fun a => evaluate answer (plan a) := by
  induction items with
  | nil => rfl
  | cons a rest ih =>
    simp only [each, evaluate_plan_bind, ih, List.mapM_cons]
    rfl

end Plan

section Traversal

variable {α β γ ε : Type}

theorem mapM_congr {f g : α → Except ε β} {items : List α} (same : ∀ a ∈ items, f a = g a) :
    items.mapM f = items.mapM g := by
  induction items with
  | nil => rfl
  | cons a rest ih =>
    rw [List.mapM_cons, List.mapM_cons, same a List.mem_cons_self,
      ih fun b mem => same b (List.mem_cons_of_mem a mem)]

/-- Where all items fail alike, the failure of a list does not tell which of them failed. -/
theorem mapM_elim (f : α → Option β) (g : β → γ) (failure : ε) (items : List α) :
    items.mapM (fun a => (f a).elim (Except.error failure) fun b => .ok (g b)) =
      (items.mapM f).elim (.error failure) fun bs => .ok (bs.map g) := by
  induction items with
  | nil => rfl
  | cons a rest ih =>
    simp only [List.mapM_cons, ih]
    cases f a with
    | none => rfl
    | some b => cases rest.mapM f <;> rfl

theorem mapM_eq_some_iff {f : α → Option β} {items : List α} {found : List β} :
    items.mapM f = some found ↔ List.Forall₂ (fun a b => f a = some b) items found := by
  induction items generalizing found with
  | nil => cases found <;> simp
  | cons a rest ih =>
    cases found with
    | nil => simp [Option.bind_eq_some_iff]
    | cons b bs => simp [Option.bind_eq_some_iff, ih]

/-- What is found is found for an item. -/
theorem mem_of_mapM_eq_some {f : α → Option β} {items : List α} {found : List β}
    (all : items.mapM f = some found) (b : β) : b ∈ found ↔ ∃ a ∈ items, f a = some b := by
  have pairs := mapM_eq_some_iff.1 all
  clear all
  induction pairs with
  | nil => simp
  | cons head _ ih => simp [ih, head, eq_comm]

theorem mapM_eq_none_iff {f : α → Option β} {items : List α} :
    items.mapM f = none ↔ ∃ a ∈ items, f a = none := by
  induction items with
  | nil => simp
  | cons a rest ih =>
    cases h : f a with
    | none => simp [h]
    | some b =>
      rw [List.mapM_cons, h]
      cases hr : rest.mapM f <;> simp [hr, h] at ih ⊢ <;> exact ih

end Traversal
end QuoteService
