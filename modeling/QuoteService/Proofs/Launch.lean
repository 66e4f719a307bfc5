import QuoteService.Launch
import QuoteService.Proofs.Log.Record
import QuoteService.Proofs.Log.Root
import QuoteService.Proofs.Settings.Resolution

/-! The two ways that a launch goes: invalid settings are reported and end it; valid ones lead to one
server and one handler of the service, and they agree with both. -/
namespace QuoteService
open Settings

namespace Launch

/-- A launch that reports its settings and ends. -/
structure Refuses (launched : Launch) : Prop where
  notRun : launched.run = none
  exit : launched.exit = some 1
  reported : ∃ record reason, launched.records = [record] ∧
    record.Shows .error "wisdom" ("Invalid configuration: " ++ reason) []

/-- The names of levels as a server takes them, with the numbers of these levels. -/
def serverLevels : List (String × Int) :=
  [("critical", 50), ("error", 40), ("warning", 30), ("info", 20), ("debug", 10)]

/-- A launch that starts a server, and leaves logging as the settings want it. -/
structure Serves (launched : Launch) (s : Settings) : Prop where
  notExited : launched.exit = none
  run : ∃ options, launched.run = some (s, options) ∧ options.host = s.host ∧
    options.port = s.port ∧ (options.logLevel, launched.root.level) ∈ serverLevels
  port : 1 ≤ s.port ∧ s.port ≤ 65535
  handler : ∃ h, launched.root.own = [h] ∧ (h.format = some .json ↔ s.logFormat = "json")
  databaseUrl : s.databaseUrl ≠ ""
  driver : ∀ scheme ∈ ["postgres://", "postgresql://"], ¬ scheme.toList <+: s.databaseUrl.toList
  logFormat : s.logFormat = "json" ∨ s.logFormat = "text"

/-- Every level that settings can have is known by its name to servers and to the root of all loggers
alike. -/
theorem level_known {name : String} (known : name ∈ levelNames) :
    ∃ number, Log.Root.levelNumber name = .ok number ∧ (Text.lower name, number) ∈ serverLevels := by
  simp only [levelNames, List.mem_cons, List.not_mem_nil, or_false] at known
  obtain rfl | rfl | rfl | rfl | rfl := known
  · exact ⟨50, Log.Root.levelNumber_name .critical (by decide), by decide⟩
  · exact ⟨40, Log.Root.levelNumber_name .error (by decide), by decide⟩
  · exact ⟨30, Log.Root.levelNumber_name .warning (by decide), by decide⟩
  · exact ⟨20, Log.Root.levelNumber_name .info (by decide), by decide⟩
  · exact ⟨10, Log.Root.levelNumber_name .debug (by decide), by decide⟩

variable {root : Log.Root} {sources : Sources}

theorem refuses {problems : List Problem} (invalid : check sources = .error problems) :
    (launch root sources).Refuses := by
  have info : (root.setup "INFO" "json").1.level = 20 :=
    Log.Root.level_setup (Log.Root.levelNumber_name .info (by decide)) "json"
  have passes : (root.setup "INFO" "json").1.passes (rejected problems) = true := by
    simp only [Log.Root.passes, info]
    rfl
  unfold launch
  rw [invalid]
  exact ⟨rfl, rfl, rejected problems, (Failure.invalid "Settings" problems).text,
    List.filter_cons_of_pos passes, Log.Record.plain_shows _ _ _⟩

theorem serves {s : Settings} (tidy : root.Tidy) (valid : check sources = .ok s) :
    (launch root sources).Serves s := by
  have sound := (check_eq_ok.1 valid).sound
  obtain ⟨number, known, listed⟩ := level_known sound.logLevel
  unfold launch
  rw [valid]
  refine ⟨rfl, ⟨options s, rfl, rfl, rfl, ?_⟩, sound.port, ⟨_, tidy.own_setup _ _, ?_⟩,
    sound.databaseUrl, sound.driver, ?_⟩
  · rw [Log.Root.level_setup known]
    exact listed
  · unfold Log.Format.ofName
    split <;> simp_all
  · simpa [formatNames] using sound.logFormat

end Launch

/-- Every launch over an environment and a file refuses its settings or serves by them, as they are
invalid or valid. -/
theorem launch_gate {root : Log.Root} (tidy : root.Tidy) (environment : List (String × String))
    (text : String) :
    match check (.ofProcess environment text) with
    | .error _ => (launch root (.ofProcess environment text)).Refuses
    | .ok s => (launch root (.ofProcess environment text)).Serves s := by
  cases checked : check (.ofProcess environment text) with
  | error problems => exact Launch.refuses checked
  | ok s => exact Launch.serves tidy checked

/-- A level in small letters from the environment, and a format from the file. -/
theorem launch_gate_warn :
    let environment := [("DATABASE_URL", "postgres://db/wisdom"), ("PORT", "8080"),
      ("log_level", " warn ")]
    let text := "LOG_FORMAT=text\n"
    let s : Settings := ⟨"0.0.0.0", 8080, "postgresql+asyncpg://db/wisdom", 20, 10,
      "http://gophergala.github.io/wisdom", "Wisdom powered by Gophergala", "wisdom.V1", "WARNING",
      "text"⟩
    Log.Root.initial.add.Tidy ∧ check (.ofProcess environment text) = .ok s ∧
      (launch Log.Root.initial.add (.ofProcess environment text)).Serves s := by
  intro environment text s
  have accepted : check (.ofProcess environment text) = .ok s := by decide +kernel
  have gate := launch_gate Log.Root.tidy_initial.add environment text
  rw [accepted] at gate
  exact ⟨Log.Root.tidy_initial.add, accepted, gate⟩

end QuoteService
