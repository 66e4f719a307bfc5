import QuoteService.Proofs.Settings.Declared

/-! Settings given as arguments again: every value that a check makes passes it unchanged, and no other
source has a say. -/
namespace QuoteService.Settings
open Text

/-- Nothing is unknown where all arguments are settings, and all entries of the file that have a text. -/
theorem unknown_eq_nil {s : Sources} (arguments : ∀ m ∈ s.arguments, m.1 ∈ names)
    (file : ∀ e ∈ s.file, lower e.1 ∈ names ∨ e.2.getD "" = "") : s.unknown names = [] := by
  refine List.append_eq_nil_iff.2 ⟨List.filterMap_eq_nil_iff.2 fun e mem => ?_,
    List.filterMap_eq_nil_iff.2 fun m mem => ?_⟩
  · obtain ⟨entry, given, rfl⟩ := List.mem_map.1 (Json.mem_of_mem_distinct mem)
    exact if_pos (by simpa using file entry given)
  · rw [if_pos (by simp [arguments m mem])]

/-- Settings that some sources give, given as arguments, give themselves: whatever the environment
holds, and the file, if it holds nothing but settings. -/
theorem check_arguments {sources : Sources} {s : Settings} (accepted : check sources = .ok s)
    (environment : List (String × String)) {file : List Dotenv.Entry}
    (known : ∀ e ∈ file, lower e.1 ∈ names ∨ e.2.getD "" = "") :
    check ⟨s.arguments, environment, file⟩ = .ok s := by
  obtain ⟨port, url, driver, level, format⟩ := (check_eq_ok.1 accepted).sound
  refine check_eq_ok.2 ⟨rfl, checkPort_integer port, checkDatabaseUrl_string url driver, rfl, rfl, rfl,
    rfl, rfl, checkLogLevel_string level, checkLogFormat_string format, unknown_eq_nil ?_ known⟩
  intro m mem
  have names : m.1 ∈ s.arguments.map Prod.fst := List.mem_map_of_mem mem
  exact names

/-- A plain URL, a port written as a fraction and a level in small letters, against other values. -/
theorem check_arguments_rewritten :
    ∃ s, check ⟨[("port", .string "8080.0"), ("database_url", .string "postgres://u@h/postgres://")],
        [("Log_Level", " warn ")], []⟩ = .ok s ∧
      s.databaseUrl = "postgresql+asyncpg://u@h/postgres://" ∧ s.port = 8080 ∧ s.logLevel = "WARNING" ∧
      check ⟨s.arguments, [("PORT", "0"), ("log_level", "DEBUG")],
        [("Database_Url", some "sqlite://"), ("other", some "")]⟩ = .ok s := by
  have accepted : check ⟨[("port", .string "8080.0"),
      ("database_url", .string "postgres://u@h/postgres://")], [("Log_Level", " warn ")], []⟩ =
      .ok ⟨"0.0.0.0", 8080, "postgresql+asyncpg://u@h/postgres://", 20, 10,
        "http://gophergala.github.io/wisdom", "Wisdom powered by Gophergala", "wisdom.V1", "WARNING",
        "json"⟩ := by
    decide +kernel
  exact ⟨_, accepted, rfl, rfl, rfl, check_arguments accepted _ (by decide +kernel)⟩

end QuoteService.Settings
