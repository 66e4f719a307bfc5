import QuoteService.Proofs.Settings.Resolution

/-! The settings as a table of declarations. A check of settings says of each declaration by itself what
becomes of it, and reports at most one problem for each. -/
namespace QuoteService

namespace Checked

variable {α β : Type}

@[simp] theorem problems_map (f : α → β) (checked : Checked α) :
    problems (checked.map f) = checked.problems := by
  cases checked <;> rfl

theorem under_map (step : PathStep) (f : α → β) (checked : Checked α) :
    under step (checked.map f) = (checked.under step).map f := by
  cases checked <;> rfl

/-- A check of one part breaks at most one rule. -/
def Single (checked : Checked α) : Prop :=
  ∀ problems, checked = .error problems → ∃ rule, problems = [⟨rule, []⟩]

@[simp] theorem single_ok (a : α) : Single (.ok a) := nofun

@[simp] theorem single_broken (rule : Rule) : Single (broken rule : Checked α) := by
  rintro _ ⟨⟩
  exact ⟨rule, rfl⟩

theorem Single.map {checked : Checked α} (single : checked.Single) (f : α → β) :
    Single (checked.map f) := by
  cases checked with
  | ok a => exact single_ok _
  | error problems =>
    rintro _ ⟨⟩
    exact single problems rfl

theorem Single.bind {checked : Checked α} (single : checked.Single) {f : α → Checked β}
    (later : ∀ a, (f a).Single) : Single (checked.bind f) := by
  cases checked with
  | ok a => exact later a
  | error problems =>
    rintro _ ⟨⟩
    exact single problems rfl

end Checked

namespace Settings
open Checked

section Single

theorem single_text (value : Json) : (Check.text value).Single := by
  unfold Check.text
  split <;> simp

theorem single_integer (value : Json) : (Check.integer value).Single := by
  unfold Check.integer
  repeat' split
  all_goals simp

theorem single_port (value : Json) : (checkPort value).Single := by
  refine (single_integer value).bind fun n => ?_
  repeat' split
  all_goals simp

theorem single_databaseUrl (value : Json) : (checkDatabaseUrl value).Single := by
  refine (single_text value).bind fun url => ?_
  dsimp only
  split <;> simp

theorem single_logLevel (value : Json) : (checkLogLevel value).Single := by
  unfold checkLogLevel
  repeat' split
  all_goals simp

theorem single_logFormat (value : Json) : (checkLogFormat value).Single := by
  unfold checkLogFormat
  repeat' split
  all_goals simp

end Single

section Stable

theorem checkPort_integer {port : Int} (bounds : 1 ≤ port ∧ port ≤ 65535) :
    checkPort (.integer port) = .ok port := by
  have above : ¬ port < 1 := by omega
  have below : ¬ 65535 < port := by omega
  simp [checkPort, Check.integer, Except.bind, above, below]

theorem checkDatabaseUrl_string {url : String} (some : url ≠ "")
    (driver : ∀ scheme ∈ DatabaseUrl.plainSchemes, ¬ scheme.toList <+: url.toList) :
    checkDatabaseUrl (.string url) = .ok url :=
  checkDatabaseUrl_eq_ok.2 ⟨url, rfl, DatabaseUrl.withAsyncDriver_of_driver driver, some⟩

theorem levelName_of_mem {name : String} (known : name ∈ levelNames) : levelName name = name := by
  revert name
  decide +kernel

theorem checkLogLevel_string {name : String} (known : name ∈ levelNames) :
    checkLogLevel (.string name) = .ok name := by
  rw [checkLogLevel, levelName_of_mem known, if_pos (List.contains_iff_mem.2 known)]

theorem checkLogFormat_string {name : String} (known : name ∈ formatNames) :
    checkLogFormat (.string name) = .ok name := by
  rw [checkLogFormat, if_pos (List.contains_iff_mem.2 known)]

end Stable

/-- A setting as it is declared: its name, what its values must be, and the value that it has if none is
given. Values are seen as JSON. -/
structure Setting where
  name : String
  check : Json → Checked Json
  default : Option Json

namespace Setting

variable {α : Type}

def of (name : String) (check : Json → Checked α) (toJson : α → Json) (default : Option α) : Setting :=
  ⟨name, fun value => (check value).map toJson, default.map toJson⟩

@[simp] theorem of_name (name : String) (check : Json → Checked α) (toJson : α → Json)
    (default : Option α) : (of name check toJson default).name = name := rfl

/-- What becomes of a setting if this value is given for it, or none. Defaults are not checked. -/
def outcome (d : Setting) (given : Option Json) : Checked Json :=
  match given, d.default with
  | some value, _ => d.check value
  | none, some value => .ok value
  | none, none => Checked.broken .missing

/-- The default of a setting is one of its values. -/
def Sound (d : Setting) : Prop := ∀ value, d.default = some value → d.check value = .ok value

end Setting

/-- All settings in order. -/
def declared : List Setting :=
  [.of "host" Check.text .string (some "0.0.0.0"),
    .of "port" checkPort .integer none,
    .of "database_url" checkDatabaseUrl .string none,
    .of "database_pool_size" Check.integer .integer (some 20),
    .of "database_max_overflow" Check.integer .integer (some 10),
    .of "docs_url" Check.text .string (some "http://gophergala.github.io/wisdom"),
    .of "server_name" Check.text .string (some "Wisdom powered by Gophergala"),
    .of "media_type" Check.text .string (some "wisdom.V1"),
    .of "log_level" checkLogLevel .string (some "INFO"),
    .of "log_format" checkLogFormat .string (some "json")]

theorem single_check {d : Setting} (mem : d ∈ declared) (value : Json) : (d.check value).Single := by
  revert d
  simp only [declared, List.forall_mem_cons, List.not_mem_nil, false_implies, implies_true, and_true]
  exact ⟨(single_text value).map _, (single_port value).map _, (single_databaseUrl value).map _,
    (single_integer value).map _, (single_integer value).map _, (single_text value).map _,
    (single_text value).map _, (single_text value).map _, (single_logLevel value).map _,
    (single_logFormat value).map _⟩

theorem single_outcome {d : Setting} (mem : d ∈ declared) (given : Option Json) :
    (d.outcome given).Single := by
  unfold Setting.outcome
  split
  · exact single_check mem _
  · exact single_ok _
  · exact single_broken _

/-- Every default is a value of its setting. -/
theorem sound_declared : ∀ d ∈ declared, d.Sound := by
  simp only [declared, List.forall_mem_cons, List.not_mem_nil, false_implies, implies_true, and_true]
  refine ⟨?_, nofun, nofun, ?_, ?_, ?_, ?_, ?_, ?_, ?_⟩ <;> rintro value ⟨⟩
  all_goals rfl

/-- A setting is the check of its value, which is its default if none is given. -/
theorem outcome_eq_check {d : Setting} (mem : d ∈ declared) (given : Option Json) :
    d.outcome given = (given.or d.default).elim (broken .missing) d.check := by
  unfold Setting.outcome
  cases given with
  | some value => rfl
  | none =>
    cases default : d.default with
    | some value => exact (sound_declared d mem value default).symm
    | none => rfl

/-- What becomes of every setting, each by itself. -/
def outcomes (s : Sources) : List (String × Checked Json) :=
  declared.map fun d => (d.name, d.outcome (s.raw? d.name))

/-- Settings as the arguments that they are given by. -/
def arguments (s : Settings) : List (String × Json) :=
  match s.toJson with
  | .object members => members
  | _ => []

section Field

variable {α : Type} {s : Sources} {name : String} {check : Json → Checked α} {toJson : α → Json}
  {default : Option α}

theorem field_map :
    (field s name check default).map toJson =
      under (.member name) ((Setting.of name check toJson default).outcome (s.raw? name)) := by
  unfold field Setting.outcome
  rw [← under_map]
  cases s.raw? name with
  | some value => rfl
  | none => cases default <;> rfl

theorem problems_field (toJson : α → Json) :
    (field s name check default).problems =
      (under (.member name) ((Setting.of name check toJson default).outcome (s.raw? name))).problems := by
  rw [← field_map, problems_map]

theorem Takes.outcome {value : α} (takes : Takes s name check default value) :
    (Setting.of name check toJson default).outcome (s.raw? name) = .ok (toJson value) := by
  rw [← @under_eq_ok _ (.member name), ← field_map, field_eq_ok.2 takes]
  rfl

theorem exists_takes
    (accepted : ∃ v, (Setting.of name check toJson default).outcome (s.raw? name) = .ok v) :
    ∃ value, Takes s name check default value := by
  obtain ⟨v, accepted⟩ := accepted
  rw [← @under_eq_ok _ (.member name), ← field_map] at accepted
  cases taken : field s name check default with
  | ok value => exact ⟨value, field_eq_ok.1 taken⟩
  | error problems => simp [taken, Except.map] at accepted

end Field

/-- All problems of the settings, in order: those of each setting, then the unknown names. -/
theorem problems_check (s : Sources) :
    (check s).problems =
      ((outcomes s).flatMap fun o => (under (.member o.1) o.2).problems) ++
        (s.unknown names).map fun name => ⟨.unknownKey, [.member name]⟩ := by
  have unknown : (noneUnknown s).problems =
      (s.unknown names).map fun name => ⟨.unknownKey, [.member name]⟩ := by
    unfold noneUnknown
    split <;> simp [*, problems]
  simp only [check, known, problems_and, problems_build, problems_field Json.string,
    problems_field Json.integer, unknown, outcomes, declared, List.map_cons, List.map_nil,
    List.flatMap_cons, List.flatMap_nil, List.nil_append, List.append_assoc, List.append_nil]
  rfl

/-- The settings that are made are the values of all sources, each by itself. -/
theorem outcomes_of_check {s : Sources} {t : Settings} (accepted : check s = .ok t) :
    outcomes s = t.arguments.map fun m => (m.1, .ok m.2) := by
  have resolved := check_eq_ok.1 accepted
  simp only [outcomes, declared, List.map_cons, List.map_nil, Setting.of_name,
    resolved.host.outcome, resolved.port.outcome, resolved.databaseUrl.outcome,
    resolved.databasePoolSize.outcome, resolved.databaseMaxOverflow.outcome, resolved.docsUrl.outcome,
    resolved.serverName.outcome, resolved.mediaType.outcome, resolved.logLevel.outcome,
    resolved.logFormat.outcome]
  rfl

theorem exists_check {s : Sources} (accepted : ∀ o ∈ outcomes s, ∃ v, o.2 = .ok v)
    (unknown : s.unknown names = []) : ∃ t, check s = .ok t := by
  simp only [outcomes, declared, List.map_cons, List.forall_mem_cons] at accepted
  obtain ⟨host, port, url, size, overflow, docs, server, media, level, format, -⟩ := accepted
  obtain ⟨_, host⟩ := exists_takes host
  obtain ⟨_, port⟩ := exists_takes port
  obtain ⟨_, url⟩ := exists_takes url
  obtain ⟨_, size⟩ := exists_takes size
  obtain ⟨_, overflow⟩ := exists_takes overflow
  obtain ⟨_, docs⟩ := exists_takes docs
  obtain ⟨_, server⟩ := exists_takes server
  obtain ⟨_, media⟩ := exists_takes media
  obtain ⟨_, level⟩ := exists_takes level
  obtain ⟨_, format⟩ := exists_takes format
  exact ⟨⟨_, _, _, _, _, _, _, _, _, _⟩, check_eq_ok.2
    ⟨host, port, url, size, overflow, docs, server, media, level, format, unknown⟩⟩

end Settings
end QuoteService
