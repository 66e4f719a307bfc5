import Mathlib.Data.List.Nodup
import QuoteService.Log.Line
import QuoteService.Proofs.Json.Lexemes
import QuoteService.Proofs.Json.Writing

/-! The JSON line of a record: one line, whatever texts the record holds, and an object that is read
back from it with all that the record shows. -/
namespace QuoteService.Log.Record

section Extras

/-- The names under which a line lists extras, in the order of the line. -/
def listedNames : List String :=
  ["remote_addr", "method", "path", "status_code", "error_tag", "error_cause"]

/-- What a line lists of the extras of a record: every value under one of the names, null apart. -/
structure Lists (extras listed : List (String × Json)) : Prop where
  ordered : (listed.map Prod.fst).Sublist listedNames
  mem : ∀ name value, (name, value) ∈ listed ↔
    name ∈ listedNames ∧ extras.lookup name = some value ∧ value.isNull = false

variable {r : Record} {extras : List (String × Json)}

theorem mem_fields {name : String} {value : Json} :
    (name, value) ∈ r.fields ↔ name ∈ listedNames ∧ r.extras.lookup name = some value := by
  constructor
  · intro mem
    obtain ⟨key, shown, found⟩ := List.mem_filterMap.1 mem
    obtain ⟨_, held, same⟩ := Option.map_eq_some_iff.1 found
    obtain ⟨rfl, rfl⟩ := Prod.mk.inj same
    exact ⟨shown, held⟩
  · rintro ⟨shown, found⟩
    exact List.mem_filterMap.2 ⟨name, shown, by rw [found]; rfl⟩

/-- Each name is looked up once, so none can come twice or out of its turn. -/
theorem names_lookups_sublist (extras : List (String × Json)) (names : List String) :
    ((names.filterMap fun name => (extras.lookup name).map fun value => (name, value)).map
      Prod.fst).Sublist names := by
  induction names with
  | nil => exact .slnil
  | cons name names ih =>
    cases found : extras.lookup name with
    | none =>
      rw [List.filterMap_cons_none (by rw [found]; rfl)]
      exact ih.cons name
    | some value =>
      rw [List.filterMap_cons_some (by rw [found]; rfl)]
      exact ih.cons_cons name

theorem lists_fields (r : Record) : Lists r.extras (r.fields.filter fun f => !f.2.isNull) where
  ordered := (List.filter_sublist.map Prod.fst).trans (names_lookups_sublist r.extras shownKeys)
  mem name value := by
    rw [List.mem_filter, mem_fields, and_assoc, Bool.not_eq_true']

theorem fields_congr (same : ∀ name ∈ listedNames, extras.lookup name = r.extras.lookup name) :
    ({ r with extras } : Record).fields = r.fields :=
  List.filterMap_congr fun name shown => by rw [same name shown]

end Extras

section Members

variable {r : Record} {time message : String} {traces : Traces} {listed : List (String × Json)}

/-- The names of a line, with those that every record has and that of a failure. -/
theorem Lists.nodup (h : Lists r.extras listed) (failure : Option Failure) :
    (["timestamp", "level", "logger", "message"] ++ listed.map Prod.fst ++
      failure.toList.map fun _ => "exception").Nodup := by
  have last : (failure.toList.map fun _ => "exception").Sublist ["exception"] := by
    cases failure with
    | none => exact List.nil_sublist _
    | some _ => exact .refl _
  have all : (["timestamp", "level", "logger", "message"] ++ listedNames ++
      ["exception"]).Nodup := by decide
  exact (((List.Sublist.refl _).append h.ordered).append last).nodup all

/-- What holds of all texts and of the listed extras holds of all members of a line. -/
theorem forall_mem_members {h : Json → Prop} (texts : ∀ s, h (.string s)) :
    (∀ m ∈ r.members time traces message, h m.2) ↔
      ∀ name ∈ listedNames, ∀ value, r.extras.lookup name = some value → value.isNull = false →
        h value := by
  have listed : (∀ f ∈ r.fields.filter fun f => !f.2.isNull, h f.2) ↔ ∀ name ∈ listedNames,
      ∀ value, r.extras.lookup name = some value → value.isNull = false → h value := by
    constructor
    · exact fun all name known value held set =>
        all (name, value) (((lists_fields r).mem name value).2 ⟨known, held, set⟩)
    · rintro all ⟨name, value⟩ mem
      obtain ⟨known, held, set⟩ := ((lists_fields r).mem name value).1 mem
      exact all name known value held set
  rw [← listed, members, List.forall_mem_append, List.forall_mem_append]
  simp [texts]

theorem jsonLine_eq (filled : r.message = .ok message) :
    r.jsonLine time traces = (Json.object (r.members time traces message)).write .spaced .all := by
  rw [jsonLine, filled]
  rfl

/-- A record has a line exactly if its message can be filled in and its extras can be written. -/
theorem exists_jsonLine_iff : (∃ text, r.jsonLine time traces = .ok text) ↔
    (∃ message, r.message = .ok message) ∧ ∀ name ∈ listedNames, ∀ value,
      r.extras.lookup name = some value → value.isNull = false →
        value.refusal? .all = none := by
  cases filled : r.message with
  | error f => simp [jsonLine, filled, bind, Except.bind]
  | ok message =>
    rw [jsonLine_eq filled, Json.exists_write_iff, Json.refusal?_object,
      forall_mem_members (h := fun v => v.refusal? .all = none) Json.refusal?_string]
    simp

/-- A record that can be written in every format. -/
structure Formats (r : Record) : Prop where
  message : ∃ message, r.message = .ok message
  extras : ∀ name ∈ listedNames, ∀ value, r.extras.lookup name = some value →
    value.refusal? .all = none

theorem Formats.line (formats : r.Formats) (time : String) (traces : Traces) (format : Format) :
    ∃ text, r.line time traces format = .ok text := by
  cases format with
  | json =>
    exact exists_jsonLine_iff.2
      ⟨formats.message, fun name known value held _ => formats.extras name known value held⟩
  | text =>
    obtain ⟨message, filled⟩ := formats.message
    exact ⟨_, by rw [Record.line, textLine, filled]; rfl⟩

/-- Whole numbers at any depth, none of them with more than 4300 digits. -/
def Listable (value : Json) : Prop := value.isWhole ∧ Json.AreShort value.integers

instance (value : Json) : Decidable (Listable value) :=
  inferInstanceAs (Decidable (_ ∧ Json.AreShort value.integers))

/-- The members of a line are written if its extras are. -/
theorem listable_members
    (extras : ∀ name ∈ listedNames, ∀ value, r.extras.lookup name = some value → Listable value) :
    Listable (.object (r.members time traces message)) := by
  have each : ∀ m ∈ r.members time traces message, Listable m.2 :=
    (forall_mem_members fun _ => ⟨rfl, nofun⟩).2 fun name known value held _ =>
      extras name known value held
  constructor
  · rw [Json.isWhole, Json.membersWhole_iff]
    exact fun m mem => (each m mem).1
  · intro n inside
    rw [Json.integers, Json.mem_memberIntegers] at inside
    obtain ⟨m, mem, within⟩ := inside
    exact (each m mem).2 n within

/-- The line is the text of an object, and is read as this object. -/
theorem jsonLine_listable (time : String) (traces : Traces) (filled : r.message = .ok message)
    (extras : ∀ name ∈ listedNames, ∀ value, r.extras.lookup name = some value → Listable value) :
    let object : Json := .object (r.members time traces message)
    r.jsonLine time traces = .ok (object.render .spaced) ∧
      Json.parse (object.render .spaced) = some object ∧ object.isWhole := by
  intro object
  obtain ⟨whole, short⟩ : Listable object := listable_members extras
  exact ⟨(jsonLine_eq filled).trans (Json.write_whole whole short),
    Json.parse_render Json.spaced_separates whole, whole⟩

/-- A record that tries to forge a line and a time, and to close the object before its end. -/
def forger : Record where
  level := ⟨35, "N\x22\nOTICE"⟩
  logger := "quotes\n\x22\x7d,"
  template := "%s is no path\n%d"
  arguments := [.string "\x22,\r\n\x7b\x22level\x22: \x22INFO\x22\x7d", .integer (-7)]
  extras := [("timestamp", .string "never"), ("path", .string "/\n\x22\\"), ("method", .null),
    ("remote_addr", .array [.bool true, .object [("\t", .null)]]), ("weight", .real .nan)]
  failure := some (.fault .value (some "line\nbreak"))

end Members

end QuoteService.Log.Record
