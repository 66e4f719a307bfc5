import Mathlib.Data.List.Nodup
import QuoteService.Migration.Command
import QuoteService.Proofs.Settings.Resolution

/-! The database that migrations go to, beside the one that the service opens. Migrations read one
variable under one spelling, and have a database of their own without it; settings are read from the
environment in any case, and from a file. -/
namespace QuoteService.Migration
open Settings

section Lookup

variable {environment : List (String × String)} {name url : String} {e : String × String}

theorem databaseUrl_of_lookup (found : environment.lookup "DATABASE_URL" = some url)
    (given : url ≠ "") : databaseUrl environment = DatabaseUrl.withAsyncDriver url := by
  unfold databaseUrl
  split
  · simp_all
  · simp_all
  · rename_i other
    rw [Option.some.inj (other.symm.trans found)]

theorem databaseUrl_of_none (none : (environment.lookup "DATABASE_URL").getD "" = "") :
    databaseUrl environment = defaultUrl := by
  unfold databaseUrl
  split
  · rfl
  · rfl
  · simp_all

theorem mem_of_lastNamed? (found : lastNamed? name environment = some e) : e ∈ environment :=
  List.mem_reverse.1 (List.mem_of_find?_eq_some found)

end Lookup

/-- Settings have the URL of the last variable that is named for it, whatever the file says. -/
theorem databaseUrl_of_accepted {environment : List (String × String)} {text : String} {s : Settings}
    (accepted : Settings.check (.ofProcess environment text) = .ok s) {e : String × String}
    (found : lastNamed? "database_url" environment = some e) :
    DatabaseUrl.withAsyncDriver e.2 = s.databaseUrl ∧ e.2 ≠ "" := by
  have takes := (check_eq_ok.1 accepted).databaseUrl
  rw [Takes, Sources.raw?_environment found] at takes
  obtain ⟨_, ⟨⟩, driven, some⟩ := checkDatabaseUrl_eq_ok.1 takes
  refine ⟨driven, fun none => some ?_⟩
  rw [← driven, none]
  rfl

/-- Migrations go to the database of the service if the last variable named for it has the name in
capitals. Without a variable of that very name they go to their own database, whatever the settings
are. If the name comes in capitals and again, later, in another case, then migrations go by the former
and the service by the latter. -/
theorem databaseUrl_settings {environment : List (String × String)}
    (distinct : (environment.map Prod.fst).Nodup) (text : String) {s : Settings}
    (accepted : Settings.check (.ofProcess environment text) = .ok s) :
    (∀ url, lastNamed? "database_url" environment = some ("DATABASE_URL", url) →
      databaseUrl environment = s.databaseUrl) ∧
    ((environment.lookup "DATABASE_URL").getD "" = "" → databaseUrl environment = defaultUrl) ∧
    ∀ url e, environment.lookup "DATABASE_URL" = some url → url ≠ "" →
      lastNamed? "database_url" environment = some e →
      databaseUrl environment = DatabaseUrl.withAsyncDriver url ∧
        s.databaseUrl = DatabaseUrl.withAsyncDriver e.2 := by
  refine ⟨fun url found => ?_, databaseUrl_of_none, fun url e found given last => ?_⟩
  · obtain ⟨driven, given⟩ := databaseUrl_of_accepted accepted found
    have exact := Json.lookup_of_mem distinct (mem_of_lastNamed? found)
    exact (databaseUrl_of_lookup exact given).trans driven
  · exact ⟨databaseUrl_of_lookup found given, (databaseUrl_of_accepted accepted last).1.symm⟩

/-- The environment names one database, and the file another. -/
theorem databaseUrl_settings_hidden :
    let environment := [("DATABASE_URL", "postgres://db/wisdom"), ("PORT", "8080")]
    let text := "DATABASE_URL=sqlite+aiosqlite:///w.db\n"
    let s : Settings := ⟨"0.0.0.0", 8080, "postgresql+asyncpg://db/wisdom", 20, 10,
      "http://gophergala.github.io/wisdom", "Wisdom powered by Gophergala", "wisdom.V1", "INFO", "json"⟩
    Settings.check (.ofProcess environment text) = .ok s ∧
      databaseUrl environment = "postgresql+asyncpg://db/wisdom" := by
  intro environment text s
  have accepted : Settings.check (.ofProcess environment text) = .ok s := by decide +kernel
  exact ⟨accepted, (databaseUrl_settings (by decide) text accepted).1 "postgres://db/wisdom" (by decide)⟩

/-- Two processes whose service opens a database file, while their migrations go to the server: one
names the file in small letters, the other in its file of settings. -/
theorem databaseUrl_apart :
    let s : Settings := ⟨"0.0.0.0", 8080, "sqlite+aiosqlite:///w.db", 20, 10,
      "http://gophergala.github.io/wisdom", "Wisdom powered by Gophergala", "wisdom.V1", "INFO", "json"⟩
    let small := [("database_url", "sqlite+aiosqlite:///w.db"), ("PORT", "8080")]
    let text := "DATABASE_URL=sqlite+aiosqlite:///w.db\n"
    (Settings.check (.ofProcess small "") = .ok s ∧ databaseUrl small ≠ s.databaseUrl) ∧
      (Settings.check (.ofProcess [("PORT", "8080")] text) = .ok s ∧
        databaseUrl [("PORT", "8080")] ≠ s.databaseUrl) := by
  decide +kernel

end QuoteService.Migration
