import Mathlib.Algebra.Group.Int.Defs
import QuoteService.Proofs.Json.RoundTrip

/-! Which values are written. A value of whole numbers alone is, if none of them has too many digits;
else what is refused is its first number without a text. -/
namespace QuoteService.Json
open Number

/-- A number of no more than 4300 digits, its sign apart. -/
def IsShort (n : Int) : Prop := (Nat.toDigits 10 n.natAbs).length ≤ 4300

instance (n : Int) : Decidable (IsShort n) :=
  inferInstanceAs (Decidable ((Nat.toDigits 10 n.natAbs).length ≤ 4300))

theorem isWritable_iff {n : Int} : isWritable n = true ↔ IsShort n := by
  rw [isWritable, maxDigits, decide_eq_true_iff, IsShort]

/-- The least number that has a digit too many. -/
theorem not_isShort_pow : ¬ IsShort (10 ^ 4300) := by
  have ten : Int.natAbs 10 = 10 := rfl
  rw [IsShort, Int.natAbs_pow, ten, Nat.length_toDigits_le_iff (by decide) (by decide)]
  exact Nat.lt_irrefl _

section Members

variable {numbers : Numbers} {x : Json}

@[simp] theorem itemsRefusal?_cons {items : List Json} :
    itemsRefusal? numbers (x :: items) = none ↔
      refusal? numbers x = none ∧ itemsRefusal? numbers items = none := by
  rw [itemsRefusal?, Option.or_eq_none_iff]

@[simp] theorem membersRefusal?_cons {name : String} {members : List (String × Json)} :
    membersRefusal? numbers ((name, x) :: members) = none ↔
      refusal? numbers x = none ∧ membersRefusal? numbers members = none := by
  rw [membersRefusal?, Option.or_eq_none_iff]

/-- An object is refused if the value of one of its members is. -/
theorem refusal?_object {members : List (String × Json)} :
    refusal? numbers (.object members) = none ↔ ∀ m ∈ members, refusal? numbers m.2 = none := by
  rw [refusal?]
  induction members with
  | nil => simp [membersRefusal?]
  | cons m rest ih => rw [membersRefusal?_cons, ih, List.forall_mem_cons]

@[simp] theorem refusal?_string (s : String) : refusal? numbers (.string s) = none := by
  rw [refusal?] <;> simp

theorem refusal?_integer {n : Int} (short : IsShort n) :
    refusal? numbers (.integer n) = none := by
  rw [refusal?, if_pos (isWritable_iff.2 short)]

theorem refusal?_long {n : Int} (long : ¬ IsShort n) :
    refusal? numbers (.integer n) = some tooManyDigits := by
  rw [refusal?, if_neg fun short => long (isWritable_iff.1 short)]

end Members

section Integers

mutual

/-- The whole numbers of a value, at any depth. -/
def integers : Json → List Int
  | .integer n => [n]
  | .array items => itemIntegers items
  | .object members => memberIntegers members
  | _ => []

def itemIntegers : List Json → List Int
  | [] => []
  | x :: rest => integers x ++ itemIntegers rest

def memberIntegers : List (String × Json) → List Int
  | [] => []
  | (_, x) :: rest => integers x ++ memberIntegers rest

end

def AreShort (numbers : List Int) : Prop := ∀ n ∈ numbers, IsShort n

instance (numbers : List Int) : Decidable (AreShort numbers) :=
  inferInstanceAs (Decidable (∀ n ∈ numbers, IsShort n))

@[simp] theorem areShort_singleton {n : Int} : AreShort [n] ↔ IsShort n := List.forall_mem_singleton

theorem areShort_append {first second : List Int} :
    AreShort (first ++ second) ↔ AreShort first ∧ AreShort second := List.forall_mem_append

variable (numbers : Numbers)

mutual

/-- Short whole numbers all have a text. -/
theorem refusal?_whole :
    ∀ {v : Json}, v.isWhole → AreShort v.integers → refusal? numbers v = none
  | .null, _, _ | .bool _, _, _ | .string _, _, _ => by rw [refusal?] <;> simp
  | .integer n, _, short => refusal?_integer (short n (by rw [integers]; exact List.mem_singleton_self n))
  | .real _, whole, _ => by cases whole
  | .array items, whole, short => by
    rw [isWhole] at whole
    rw [integers] at short
    rw [refusal?]
    exact itemsRefusal?_whole whole short
  | .object members, whole, short => by
    rw [isWhole] at whole
    rw [integers] at short
    rw [refusal?]
    exact membersRefusal?_whole whole short

theorem itemsRefusal?_whole :
    ∀ {items : List Json}, areWhole items → AreShort (itemIntegers items) →
      itemsRefusal? numbers items = none
  | [], _, _ => rfl
  | x :: rest, whole, short => by
    obtain ⟨first, others⟩ := (areWhole_cons x rest).1 whole
    rw [itemIntegers] at short
    obtain ⟨one, all⟩ := areShort_append.1 short
    exact itemsRefusal?_cons.2 ⟨refusal?_whole first one, itemsRefusal?_whole others all⟩

theorem membersRefusal?_whole :
    ∀ {members : List (String × Json)}, membersWhole members → AreShort (memberIntegers members) →
      membersRefusal? numbers members = none
  | [], _, _ => rfl
  | (name, x) :: rest, whole, short => by
    obtain ⟨first, others⟩ := (membersWhole_cons name x rest).1 whole
    rw [memberIntegers] at short
    obtain ⟨one, all⟩ := areShort_append.1 short
    exact membersRefusal?_cons.2 ⟨refusal?_whole first one, membersRefusal?_whole others all⟩

end

theorem mem_memberIntegers {members : List (String × Json)} {n : Int} :
    n ∈ memberIntegers members ↔ ∃ m ∈ members, n ∈ m.2.integers := by
  induction members with
  | nil => simp [memberIntegers]
  | cons m rest ih => simp [memberIntegers, ih]

end Integers

section Write

variable {style : Style} {numbers : Numbers} {v : Json}

theorem write_eq_ok {text : String} :
    v.write style numbers = .ok text ↔ refusal? numbers v = none ∧ text = v.render style := by
  rw [write]
  cases refusal? numbers v <;> simp [eq_comm]

theorem exists_write_iff :
    (∃ text, v.write style numbers = .ok text) ↔ refusal? numbers v = none := by
  simp [write_eq_ok]

theorem write_of_refusal? {failure : Failure} (refused : refusal? numbers v = some failure) :
    v.write style numbers = .error failure := by
  rw [write, refused]

/-- The text of short whole numbers is the one that is read back. -/
theorem write_whole (whole : v.isWhole) (short : AreShort v.integers) :
    v.write style numbers = .ok (v.render style) :=
  write_eq_ok.2 ⟨refusal?_whole numbers whole short, rfl⟩

end Write

end QuoteService.Json
