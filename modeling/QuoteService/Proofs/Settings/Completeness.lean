import QuoteService.Proofs.Settings.Declared
import QuoteService.Proofs.Settings.Lines

/-! What settings are made of, and all that can be wrong with it. Each setting is settled by its own
entries, and every problem is reported once. Of the spellings that a name has in a file, the one whose
first line comes last counts, with the value of its last line. -/
namespace QuoteService.Settings
open Text Checked

section Entries

variable {α : Type} {name : String}

theorem lastNamed?_eq_getLast? (name : String) (entries : List (String × α)) :
    lastNamed? name entries = (entries.filter fun e => lower e.1 == name).getLast? :=
  List.getLast?_filter.symm

theorem mem_foldNames {value : α} {entries : List (String × α)} :
    (name, value) ∈ foldNames entries ↔ (lastNamed? name entries).map (·.2) = some value := by
  rw [← lookup_foldNames]
  exact ⟨Json.lookup_of_mem (Json.nodup_distinct _), Json.mem_of_lookup⟩

theorem filter_named {changed : String} (other : name ≠ changed) (entries : List (String × α)) :
    ((entries.filter fun e => lower e.1 != changed).filter fun e => lower e.1 == name) =
      entries.filter fun e => lower e.1 == name := by
  rw [List.filter_filter]
  refine List.filter_congr fun e _ => ?_
  cases named : lower e.1 == name with
  | false => rfl
  | true => simpa [beq_iff_eq.1 named] using other

theorem filterMap_unless {β : Type} (out : α → Bool) (key : α → β) (entries : List α) :
    entries.filterMap (fun e => if out e then none else some (key e)) =
      (entries.filter fun e => !out e).map key := by
  induction entries with
  | nil => rfl
  | cons e rest ih => cases left : out e <;> simp [left, ih]

/-- Arguments go before the environment, and this goes before the file. -/
theorem Sources.raw?_eq (s : Sources) (name : String) : s.raw? name =
    (s.arguments.lookup name).or (((lastNamed? name s.environment).map fun e => .string e.2).or
      ((lastNamed? name s.file).bind fun e => e.2.map .string)) := by
  rw [Sources.raw?, lookup_foldNames, lookup_foldNames]
  cases s.arguments.lookup name with
  | some value => rfl
  | none =>
    cases lastNamed? name s.environment with
    | some e => rfl
    | none => obtain _ | ⟨_, _ | value⟩ := lastNamed? name s.file <;> rfl

end Entries

section Unknown

variable {s : Sources} {name : String}

/-- The file has a text under a name, in any case. -/
def Sources.Filed (s : Sources) (name : String) : Prop :=
  ∃ e, lastNamed? name s.file = some e ∧ e.2.getD "" ≠ ""

/-- All names that are no settings, in the order of their sources. -/
structure Sources.Unknown (s : Sources) (ofFile ofArguments : List String) : Prop where
  file : ofFile.Sublist ((foldNames s.file).map Prod.fst)
  arguments : ofArguments.Sublist (s.arguments.map Prod.fst)
  mem_ofFile : ∀ name, name ∈ ofFile ↔ name ∉ names ∧ s.Filed name
  mem_ofArguments : ∀ name, name ∈ ofArguments ↔
    name ∉ names ∧ name ∈ s.arguments.map Prod.fst ∧ ¬ s.Filed name

theorem filed_iff {s : Sources} {name : String} :
    s.Filed name ↔ ∃ value, (name, value) ∈ foldNames s.file ∧ value.getD "" ≠ "" := by
  simp only [Sources.Filed, mem_foldNames, Option.map_eq_some_iff]
  constructor
  · rintro ⟨e, found, text⟩
    exact ⟨e.2, ⟨e, found, rfl⟩, text⟩
  · rintro ⟨_, ⟨e, found, rfl⟩, text⟩
    exact ⟨e, found, text⟩

theorem Sources.exists_unknown (s : Sources) :
    ∃ ofFile ofArguments, s.unknown names = ofFile ++ ofArguments ∧ s.Unknown ofFile ofArguments := by
  unfold Sources.unknown
  simp only [filterMap_unless]
  generalize filed : ((foldNames s.file).filter _).map Prod.fst = ofFile
  have mem_ofFile (name : String) : name ∈ ofFile ↔ name ∉ names ∧ s.Filed name := by
    rw [← filed, filed_iff]
    simp [and_left_comm]
  refine ⟨_, _, rfl, ?_, List.filter_sublist.map _, mem_ofFile, fun name => ?_⟩
  · rw [← filed]
    exact List.filter_sublist.map _
  · have listed : name ∈ (s.arguments.filter
        fun m => !(names.contains m.1 || ofFile.contains m.1)).map Prod.fst ↔
        (name ∉ names ∧ name ∉ ofFile) ∧ name ∈ s.arguments.map Prod.fst := by
      simp [and_comm]
    rw [listed, mem_ofFile]
    constructor
    · rintro ⟨⟨unknown, unfiled⟩, given⟩
      exact ⟨unknown, given, fun filed => unfiled ⟨unknown, filed⟩⟩
    · rintro ⟨unknown, given, unfiled⟩
      exact ⟨⟨unknown, fun filed => unfiled filed.2⟩, given⟩

theorem Sources.Unknown.nodup {ofFile ofArguments : List String} (unknown : s.Unknown ofFile ofArguments)
    (distinct : (s.arguments.map Prod.fst).Nodup) : (ofFile ++ ofArguments).Nodup := by
  refine List.nodup_append.2
    ⟨unknown.file.nodup (Json.nodup_distinct _), unknown.arguments.nodup distinct, ?_⟩
  rintro name file _ arguments rfl
  exact ((unknown.mem_ofArguments name).1 arguments).2.2 ((unknown.mem_ofFile name).1 file).2

end Unknown

/-- A check that settles every setting by itself, and reports all that is wrong. -/
structure Complete (s : Sources) : Prop where
  ordered : (outcomes s).map Prod.fst = names
  checked : ∀ d ∈ declared, d.outcome (s.raw? d.name) =
    ((s.raw? d.name).or d.default).elim (broken .missing) d.check
  single : ∀ o ∈ outcomes s, (∃ value, o.2 = .ok value) ∨ ∃ rule, o.2 = broken rule
  accepted : (∃ t, check s = .ok t) ↔
    (∀ o ∈ outcomes s, ∃ value, o.2 = .ok value) ∧ s.unknown names = []
  values : ∀ t, check s = .ok t → outcomes s = t.arguments.map fun m => (m.1, .ok m.2)
  refused : ∀ problems, check s = .error problems →
    problems = ((outcomes s).flatMap fun o => (under (.member o.1) o.2).problems) ++
      (s.unknown names).map fun name => ⟨.unknownKey, [.member name]⟩

theorem complete (s : Sources) : Complete s where
  ordered := rfl
  checked d declared := outcome_eq_check declared _
  single o mem := by
    obtain ⟨d, declared, rfl⟩ := List.mem_map.1 mem
    have single := single_outcome declared (s.raw? d.name)
    dsimp only
    cases outcome : d.outcome (s.raw? d.name) with
    | ok value => exact .inl ⟨value, rfl⟩
    | error problems =>
      obtain ⟨rule, rfl⟩ := single problems outcome
      exact .inr ⟨rule, rfl⟩
  accepted := by
    refine ⟨fun ⟨t, accepted⟩ => ⟨?_, (check_eq_ok.1 accepted).noneUnknown⟩,
      fun ⟨settled, unknown⟩ => exists_check settled unknown⟩
    rw [outcomes_of_check accepted]
    rintro o mem
    obtain ⟨m, -, rfl⟩ := List.mem_map.1 mem
    exact ⟨m.2, rfl⟩
  values _ := outcomes_of_check
  refused problems refused := by
    rw [← problems_check, refused]
    rfl

/-- What a process starts from: arguments under distinct names, the environment, and the text of a
file. -/
structure Inputs where
  arguments : List (String × Json)
  distinct : (arguments.map Prod.fst).Nodup
  environment : List (String × String)
  text : String

namespace Inputs

def sources (i : Inputs) : Sources :=
  ⟨i.arguments, i.environment, Dotenv.read i.environment i.text⟩

/-- The lines of the file that have a name in any case. -/
def linesOf (i : Inputs) (name : String) : List Dotenv.Entry :=
  (Dotenv.lines i.text).filter fun e => lower e.1 == name

/-- The line of the file that counts for a name: of the spellings of the name, the one whose first line
comes last, with the value of its last line. -/
def line? (i : Inputs) (name : String) : Option Dotenv.Entry :=
  (Json.distinct (i.linesOf name)).getLast?

/-- Where the value of each name comes from. -/
structure Layered (i : Inputs) : Prop where
  raw : ∀ name, i.sources.raw? name =
    (i.arguments.lookup name).or (((lastNamed? name i.environment).map fun e => .string e.2).or
      ((lastNamed? name i.sources.file).bind fun e => e.2.map .string))
  entry : ∀ name, Option.Rel Dotenv.Expands (i.line? name) (lastNamed? name i.sources.file)
  alike : ∀ name spelling, (∀ e ∈ i.linesOf name, e.1 = spelling) →
    i.line? name = (i.linesOf name).getLast?

theorem layered (i : Inputs) : i.Layered where
  raw := i.sources.raw?_eq
  entry name := by
    rw [lastNamed?_eq_getLast?, sources, Dotenv.read_eq_resolve]
    exact Dotenv.expands_getLast? (fun key => lower key == name) i.environment (Dotenv.lines i.text)
  alike name spelling alike := by
    rw [line?, Json.distinct_alike alike]
    cases (i.linesOf name).getLast? <;> rfl

/-- Inputs that differ in nothing but what they hold under one name, in any case. -/
structure AgreeApart (changed : String) (i j : Inputs) : Prop where
  arguments : (i.arguments.filter fun m => m.1 != changed) =
    j.arguments.filter fun m => m.1 != changed
  environment : (i.environment.filter fun e => lower e.1 != changed) =
    j.environment.filter fun e => lower e.1 != changed
  lines : ((Dotenv.lines i.text).filter fun e => lower e.1 != changed) =
    (Dotenv.lines j.text).filter fun e => lower e.1 != changed

/-- The value of a name is one of the file, and refers to other values. -/
def Refers (i : Inputs) (name : String) : Prop :=
  i.arguments.lookup name = none ∧ lastNamed? name i.environment = none ∧
    ∃ e ∈ i.line? name, ¬ Dotenv.Plain e

variable {i j : Inputs} {name changed : String}

theorem lastNamed?_file (plain : ∀ e ∈ i.line? name, Dotenv.Plain e) :
    lastNamed? name i.sources.file = i.line? name := by
  have entry := (layered i).entry name
  generalize i.line? name = line at entry plain
  generalize lastNamed? name i.sources.file = found at entry
  cases entry with
  | none => rfl
  | some expands => rw [expands.2 (plain _ rfl)]

theorem AgreeApart.raw? (agree : AgreeApart changed i j) (other : name ≠ changed)
    (direct : ¬ i.Refers name) : i.sources.raw? name = j.sources.raw? name := by
  have kept : (name != changed) = true := bne_iff_ne.2 other
  have arguments : i.arguments.lookup name = j.arguments.lookup name := by
    rw [← Json.lookup_filter (p := (· != changed)) kept, agree.arguments,
      Json.lookup_filter (p := (· != changed)) kept]
  have environment : lastNamed? name i.environment = lastNamed? name j.environment := by
    rw [lastNamed?_eq_getLast?, lastNamed?_eq_getLast?, ← filter_named other, agree.environment,
      filter_named other]
  have line : i.line? name = j.line? name := by
    rw [line?, linesOf, ← filter_named other, agree.lines, filter_named other, line?, linesOf]
  rw [(layered i).raw, (layered j).raw, ← arguments, ← environment]
  -- The first two cases go by `simp only`, since `rfl` would compare what the two files hold.
  cases given : i.arguments.lookup name with
  | some value => simp only [Option.some_or]
  | none =>
    cases found : lastNamed? name i.environment with
    | some e => simp only [Option.map_some, Option.none_or, Option.some_or]
    | none =>
      have plain : ∀ e ∈ i.line? name, Dotenv.Plain e := fun e counts =>
        Decidable.byContradiction fun refers => direct ⟨given, found, e, counts, refers⟩
      rw [lastNamed?_file plain, lastNamed?_file (line ▸ plain), line]

/-- Of several lines of a file that have a name, the last one may not count: not after a line of another
spelling, and a value may come from the value of another name. -/
theorem entries_entangled :
    let turns : Inputs := ⟨[], List.nodup_nil, [], "DATABASE_URL=x\nPORT=1\nport=2\nPORT=3\n"⟩
    let referring (host : String) : Inputs :=
      ⟨[], List.nodup_nil, [("HOST", host)], "DATABASE_URL=x\nPORT=1\nSERVER_NAME=$\x7bHOST\x7d\n"⟩
    ((turns.linesOf "port").getLast? = some ("PORT", some "3") ∧
      (check turns.sources).map (·.port) = .ok 2) ∧
    AgreeApart "host" (referring "a") (referring "b") ∧
      (check (referring "a").sources).map (·.serverName) = .ok "a" ∧
      (check (referring "b").sources).map (·.serverName) = .ok "b" := by
  refine ⟨⟨by decide +kernel, by decide +kernel⟩, ⟨rfl, by decide +kernel, rfl⟩, by decide +kernel,
    by decide +kernel⟩

/-- Settings are made exactly if each of them takes a value from its own entries and there is no
unknown name; if they are not, each one that takes none has one problem, and each unknown name has
another. What one name has entries for is of no concern to other settings, unless their own lines refer
to it. -/
theorem resolution (i : Inputs) :
    i.Layered ∧ Complete i.sources ∧
    (∃ ofFile ofArguments, i.sources.unknown names = ofFile ++ ofArguments ∧
      (ofFile ++ ofArguments).Nodup ∧ i.sources.Unknown ofFile ofArguments) ∧
    ∀ (j : Inputs) (changed : String), AgreeApart changed i j →
      ∀ d ∈ declared, d.name ≠ changed → ¬ i.Refers d.name →
        d.outcome (i.sources.raw? d.name) = d.outcome (j.sources.raw? d.name) := by
  refine ⟨layered i, complete i.sources, ?_, fun j changed agree d _ other direct => ?_⟩
  · obtain ⟨ofFile, ofArguments, same, unknown⟩ := i.sources.exists_unknown
    exact ⟨ofFile, ofArguments, same, unknown.nodup i.distinct, unknown⟩
  · rw [agree.raw? other direct]

/-- A port out of bounds, beside names that are no settings; and then another port. -/
theorem resolution_port :
    let i (port : String) : Inputs :=
      ⟨[("log_level", .string "warn"), ("extra", .null)], by decide, [("Port", port)],
        "Database_Url=a\nother=1\nDATABASE_URL=postgres://b\n"⟩
    (∃ problems, check (i "0").sources = .error problems ∧
      problems = [⟨.atLeast 1, [.member "port"]⟩, ⟨.unknownKey, [.member "other"]⟩,
        ⟨.unknownKey, [.member "extra"]⟩]) ∧
    lastNamed? "database_url" (i "0").sources.file = some ("DATABASE_URL", some "postgres://b") ∧
    ∀ d ∈ declared, d.name ≠ "port" →
      d.outcome ((i "0").sources.raw? d.name) = d.outcome ((i "80").sources.raw? d.name) := by
  intro i
  have plain : ∀ e ∈ Dotenv.lines (i "0").text, Dotenv.Plain e := by decide +kernel
  have direct (name : String) : ¬ (i "0").Refers name := by
    rintro ⟨-, -, e, counts, refers⟩
    have line := Json.mem_of_mem_distinct (List.mem_of_getLast? counts)
    exact refers (plain e (List.mem_of_mem_filter line))
  have agree : AgreeApart "port" (i "0") (i "80") := ⟨rfl, by decide +kernel, rfl⟩
  obtain ⟨layered, complete, -, apart⟩ := resolution (i "0")
  refine ⟨?_, by decide +kernel,
    fun d mem other => apart (i "80") "port" agree d mem other (direct d.name)⟩
  cases checked : check (i "0").sources with
  | ok s => exact absurd (complete.accepted.1 ⟨s, checked⟩).2 (by decide +kernel)
  | error problems => exact ⟨problems, rfl, (complete.refused problems checked).trans (by decide +kernel)⟩

end Inputs

end QuoteService.Settings
