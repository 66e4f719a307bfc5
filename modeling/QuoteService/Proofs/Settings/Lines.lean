import QuoteService.Proofs.Json.Members
import QuoteService.Settings.Dotenv

/-! Lines of a file of settings. References are resolved line by line, each against the lines before it
and the environment; then lines of one key are put together, the last of them where the first one
stood. A value without a reference is left as it is. -/
namespace QuoteService.Dotenv

/-- A file line by line, before references are resolved. -/
def lines (text : String) : List Entry :=
  let cs := normalized (withoutMark text.toList)
  readEntries (cs.length + 1) cs

theorem read_eq_resolve (environment : List (String × String)) (text : String) :
    read environment text = resolve environment (lines text) := rfl

/-- The value that a reference stands for. -/
def referred? (environment : List (String × String)) (known : List Entry) (name : String) :
    Option String :=
  match known.lookup name with
  | some value => some (value.getD "")
  | none => environment.lookup name

/-- A line with values in place of its references. -/
def expandLine (environment : List (String × String)) (known : List Entry) (e : Entry) : Entry :=
  (e.1, e.2.map fun v =>
    String.ofList (substitute (referred? environment known) (v.length + 1) v.toList))

/-- All lines with values in place of their references. -/
def expand (environment : List (String × String)) : (known : List Entry) → List Entry → List Entry
  | _, [] => []
  | known, e :: rest =>
    let line := expandLine environment known e
    line :: expand environment (Json.putMember line.1 line.2 known) rest

theorem resolve_eq_distinct (environment : List (String × String)) (lines : List Entry) :
    resolve environment lines = Json.distinct (expand environment [] lines) := by
  unfold resolve Json.distinct
  generalize ([] : List Entry) = known
  induction lines generalizing known with
  | nil => rfl
  | cons e rest ih => exact ih _

/-- A line without references. -/
def Plain (e : Entry) : Prop := ∀ v ∈ e.2, ¬ ['$', '\x7b'] <:+: v.toList

instance (e : Entry) : Decidable (Plain e) :=
  inferInstanceAs (Decidable (∀ v ∈ e.2, ¬ ['$', '\x7b'] <:+: v.toList))

theorem substitute_plain {lookup : String → Option String} {cs : List Char}
    (plain : ¬ ['$', '\x7b'] <:+: cs) (fuel : Nat) : substitute lookup fuel cs = cs := by
  induction cs generalizing fuel with
  | nil => cases fuel <;> rfl
  | cons c rest ih =>
    have later : ¬ ['$', '\x7b'] <:+: rest :=
      fun found => plain (found.trans (List.suffix_cons c rest).isInfix)
    cases fuel with
    | zero => rfl
    | succ fuel =>
      unfold substitute
      split
      · exact absurd (List.prefix_append ['$', '\x7b'] _).isInfix plain
      · rw [ih later]

theorem expandLine_plain {e : Entry} (plain : Plain e) (environment : List (String × String))
    (known : List Entry) : expandLine environment known e = e := by
  obtain ⟨key, value⟩ := e
  cases value with
  | none => rfl
  | some v => simp [expandLine, substitute_plain (plain v rfl)]

/-- A line and what is made of it: of the same key, and unchanged if there are no references. -/
def Expands (e line : Entry) : Prop := e.1 = line.1 ∧ (Plain e → line = e)

theorem expands_expand (environment : List (String × String)) (known lines : List Entry) :
    List.Forall₂ Expands lines (expand environment known lines) := by
  induction lines generalizing known with
  | nil => exact .nil
  | cons e rest ih => exact .cons ⟨rfl, fun plain => expandLine_plain plain environment known⟩ (ih _)

/-- Of the lines of the chosen keys, what is made of the one that counts. -/
theorem expands_getLast? (p : String → Bool) (environment : List (String × String))
    (lines : List Entry) :
    Option.Rel Expands (Json.distinct (lines.filter fun e => p e.1)).getLast?
      ((resolve environment lines).filter fun e => p e.1).getLast? := by
  have alike (e line : Entry) (expands : Expands e line) : e.1 = line.1 := expands.1
  have chosen := List.rel_filter (p := fun e => p e.1) (q := fun e => p e.1)
    (fun e line expands => iff_of_eq (congrArg (p · = true) (alike e line expands)))
    (expands_expand environment [] lines)
  rw [resolve_eq_distinct, Json.filter_distinct]
  exact Json.rel_getLast? (Json.rel_distinct alike chosen)

end QuoteService.Dotenv
