import QuoteService.Proofs.Database.Url
import QuoteService.Proofs.Json.Members
import QuoteService.Settings.Basic

/-! Which source each setting is taken from, and what is known of settings once they are accepted. Of
several variables that have a name in some case, the last one counts. -/
namespace QuoteService

namespace Settings
open Text

section Sources

variable {α : Type}

/-- The last entry that has a name in some case. -/
def lastNamed? (name : String) (entries : List (String × α)) : Option (String × α) :=
  entries.reverse.find? fun e => lower e.1 == name

theorem lookup_map_lower (name : String) (entries : List (String × α)) :
    (entries.map fun e => (lower e.1, e.2)).lookup name =
      (entries.find? fun e => lower e.1 == name).map (·.2) := by
  induction entries with
  | nil => rfl
  | cons e rest ih =>
    rw [List.map_cons, List.lookup_cons, List.find?_cons, Bool.beq_comm]
    cases lower e.1 == name <;> simp [ih]

theorem lookup_foldNames (name : String) (entries : List (String × α)) :
    (foldNames entries).lookup name = (lastNamed? name entries).map (·.2) := by
  rw [foldNames, Json.lookup_distinct, ← List.map_reverse, lookup_map_lower, lastNamed?]

/-- What a process takes its settings from: its environment, and the text of a file that may be empty. -/
def Sources.ofProcess (environment : List (String × String)) (text : String) : Sources :=
  ⟨[], environment, Dotenv.read environment text⟩

/-- A variable of the environment hides the file. -/
theorem Sources.raw?_environment {environment : List (String × String)} {name : String}
    {e : String × String} (found : lastNamed? name environment = some e) (text : String) :
    (Sources.ofProcess environment text).raw? name = some (.string e.2) := by
  simp [Sources.raw?, Sources.ofProcess, lookup_foldNames, found]

end Sources

/-- A setting has the checked value of its sources, or else its default. -/
def Takes {α : Type} (s : Sources) (name : String) (check : Json → Checked α) (default : Option α)
    (value : α) : Prop :=
  match s.raw? name with
  | some given => check given = .ok value
  | none => default = some value

theorem field_eq_ok {α : Type} {s : Sources} {name : String} {check : Json → Checked α}
    {default : Option α} {value : α} :
    field s name check default = .ok value ↔ Takes s name check default value := by
  unfold field Takes
  rw [Checked.under_eq_ok]
  cases s.raw? name with
  | some given => rfl
  | none => cases default <;> simp

/-- Settings that agree with their sources, each by itself, and no other name in the sources. -/
structure Resolved (sources : Sources) (s : Settings) : Prop where
  host : Takes sources "host" Check.text (some "0.0.0.0") s.host
  port : Takes sources "port" checkPort none s.port
  databaseUrl : Takes sources "database_url" checkDatabaseUrl none s.databaseUrl
  databasePoolSize :
    Takes sources "database_pool_size" Check.integer (some 20) s.databasePoolSize
  databaseMaxOverflow :
    Takes sources "database_max_overflow" Check.integer (some 10) s.databaseMaxOverflow
  docsUrl :
    Takes sources "docs_url" Check.text (some "http://gophergala.github.io/wisdom") s.docsUrl
  serverName :
    Takes sources "server_name" Check.text (some "Wisdom powered by Gophergala") s.serverName
  mediaType : Takes sources "media_type" Check.text (some "wisdom.V1") s.mediaType
  logLevel : Takes sources "log_level" checkLogLevel (some "INFO") s.logLevel
  logFormat : Takes sources "log_format" checkLogFormat (some "json") s.logFormat
  noneUnknown : sources.unknown names = []

theorem noneUnknown_eq_ok {sources : Sources} :
    noneUnknown sources = .ok () ↔ sources.unknown names = [] := by
  unfold noneUnknown
  cases sources.unknown names <;> simp

/-- Settings are accepted exactly if they are resolved. -/
theorem check_eq_ok {sources : Sources} {s : Settings} :
    check sources = .ok s ↔ Resolved sources s := by
  constructor
  · intro accepted
    simp only [check, known, Checked.and_eq_ok, Checked.build, field_eq_ok] at accepted
    obtain ⟨_, ⟨⟩, ⟨_, _, ⟨⟩, ⟨_, _, ⟨_, _, ⟨_, _, ⟨_, _, ⟨_, _, ⟨_, _, ⟨_, _, ⟨_, _, ⟨_, _, ⟨_, _, ⟨⟩,
      host, rfl⟩, port, rfl⟩, databaseUrl, rfl⟩, databasePoolSize, rfl⟩, databaseMaxOverflow, rfl⟩,
      docsUrl, rfl⟩, serverName, rfl⟩, mediaType, rfl⟩, logLevel, rfl⟩, logFormat, rfl⟩, rfl⟩,
      unknown, rfl⟩ := accepted
    exact ⟨host, port, databaseUrl, databasePoolSize, databaseMaxOverflow, docsUrl, serverName,
      mediaType, logLevel, logFormat, noneUnknown_eq_ok.1 unknown⟩
  · intro resolved
    rw [check, known, field_eq_ok.2 resolved.host, field_eq_ok.2 resolved.port,
      field_eq_ok.2 resolved.databaseUrl, field_eq_ok.2 resolved.databasePoolSize,
      field_eq_ok.2 resolved.databaseMaxOverflow, field_eq_ok.2 resolved.docsUrl,
      field_eq_ok.2 resolved.serverName, field_eq_ok.2 resolved.mediaType,
      field_eq_ok.2 resolved.logLevel, field_eq_ok.2 resolved.logFormat,
      noneUnknown_eq_ok.2 resolved.noneUnknown]
    rfl

section Checks

theorem checkPort_bounds {value : Json} {port : Int} (checked : checkPort value = .ok port) :
    1 ≤ port ∧ port ≤ 65535 := by
  unfold checkPort at checked
  cases read : Check.integer value with
  | error problems => simp [read, Except.bind] at checked
  | ok n =>
    simp only [read, Except.bind] at checked
    split at checked
    · exact absurd checked Checked.broken_ne_ok
    · split at checked
      · exact absurd checked Checked.broken_ne_ok
      · obtain rfl : n = port := Except.ok.inj checked
        omega

theorem checkDatabaseUrl_eq_ok {value : Json} {url : String} :
    checkDatabaseUrl value = .ok url ↔
      ∃ given, value = .string given ∧ DatabaseUrl.withAsyncDriver given = url ∧ url ≠ "" := by
  cases value with
  | string given =>
    by_cases none : DatabaseUrl.withAsyncDriver given = ""
    · simp only [checkDatabaseUrl, Check.text, Except.bind, String.isEmpty_iff, none, if_true,
        Checked.broken_ne_ok, false_iff]
      rintro ⟨_, ⟨⟩, rfl, some⟩
      exact some none
    · simp only [checkDatabaseUrl, Check.text, Except.bind, String.isEmpty_iff, none, if_false]
      constructor
      · rintro ⟨⟩
        exact ⟨given, rfl, rfl, none⟩
      · rintro ⟨_, ⟨⟩, rfl, -⟩
        rfl
  | _ => simp [checkDatabaseUrl, Check.text, Checked.broken, Except.bind]

theorem mem_of_checked {names : List String} {text name : String} {rule : Rule}
    (checked : (if names.contains text then .ok text else Checked.broken rule) = Except.ok name) :
    name ∈ names := by
  split at checked
  · rename_i known
    rw [← Except.ok.inj checked]
    exact List.contains_iff_mem.1 known
  · exact absurd checked Checked.broken_ne_ok

theorem checkLogLevel_mem {value : Json} {name : String} (checked : checkLogLevel value = .ok name) :
    name ∈ levelNames := by
  unfold checkLogLevel at checked
  split at checked
  · exact mem_of_checked checked
  · exact absurd checked Checked.broken_ne_ok

theorem checkLogFormat_mem {value : Json} {name : String}
    (checked : checkLogFormat value = .ok name) : name ∈ formatNames := by
  unfold checkLogFormat at checked
  split at checked
  · exact mem_of_checked checked
  · exact absurd checked Checked.broken_ne_ok

end Checks

/-- What a setting takes is its default, or has been checked. -/
theorem Takes.cases {α : Type} {s : Sources} {name : String} {check : Json → Checked α}
    {default : Option α} {value : α} (takes : Takes s name check default value) :
    (∃ given, s.raw? name = some given ∧ check given = .ok value) ∨ default = some value := by
  unfold Takes at takes
  split at takes
  · exact .inl ⟨_, ‹_›, takes⟩
  · exact .inr takes

/-- What holds of all settings that are accepted, wherever they come from. -/
structure Sound (s : Settings) : Prop where
  port : 1 ≤ s.port ∧ s.port ≤ 65535
  databaseUrl : s.databaseUrl ≠ ""
  driver : ∀ scheme ∈ DatabaseUrl.plainSchemes, ¬ scheme.toList <+: s.databaseUrl.toList
  logLevel : s.logLevel ∈ levelNames
  logFormat : s.logFormat ∈ formatNames

theorem Resolved.sound {sources : Sources} {s : Settings} (resolved : Resolved sources s) :
    Sound s := by
  obtain ⟨value, -, url⟩ | ⟨⟨⟩⟩ := resolved.databaseUrl.cases
  obtain ⟨given, -, driven, some⟩ := checkDatabaseUrl_eq_ok.1 url
  refine ⟨?_, some, driven ▸ DatabaseUrl.not_plain_withAsyncDriver given, ?_, ?_⟩
  · obtain ⟨value, -, port⟩ | ⟨⟨⟩⟩ := resolved.port.cases
    exact checkPort_bounds port
  · obtain ⟨value, -, level⟩ | default := resolved.logLevel.cases
    · exact checkLogLevel_mem level
    · rw [← Option.some.inj default]
      decide
  · obtain ⟨value, -, format⟩ | default := resolved.logFormat.cases
    · exact checkLogFormat_mem format
    · rw [← Option.some.inj default]
      decide

end Settings
end QuoteService
