import Mathlib.Tactic.Common
import QuoteService.Launch
import QuoteService.Proofs.Log.Line
import QuoteService.Proofs.Log.Root

/-! The handler of the service over any history of set-ups, launches, and handlers that others attach and
remove: there is never more than one, and a set-up leaves the handlers of others as they are. -/
namespace QuoteService.Log

namespace Root

/-- The handlers of others. -/
def others (r : Root) : List Handler := r.handlers.filter (·.format.isNone)

/-- Others attach a handler of theirs, a new one or one that they have removed before. One that is there
stays where it is, and the handler that the service has installed is none of theirs. -/
def attach (r : Root) (id : Nat) : Root :=
  if r.installed = some id ∨ id ∈ r.handlers.map (·.id) then r
  else { r with handlers := r.handlers ++ [⟨id, none⟩], next := max r.next (id + 1) }

/-- No handler of the service is there. -/
structure Bare (r : Root) : Prop where
  none : r.own = []
  numbered : ∀ h ∈ r.handlers, h.id < r.next
  apart : ∀ h ∈ r.handlers, r.installed ≠ some h.id

/-- The handler of the service is the installed one, and there is no second. -/
structure Orderly (r : Root) : Prop where
  tidy : r.Tidy
  single : r.own.length ≤ 1
  numbered : ∀ h ∈ r.handlers, h.id < r.next
  apart : ∀ h ∈ r.others, r.installed ≠ some h.id

section Steps

variable {r : Root}

theorem mem_others {h : Handler} : h ∈ r.others ↔ h ∈ r.handlers ∧ h.format.isNone :=
  List.mem_filter

theorem Bare.orderly (bare : r.Bare) : r.Orderly where
  tidy h mem := by simp [bare.none] at mem
  single := by simp [bare.none]
  numbered := bare.numbered
  apart h mem := bare.apart h (mem_others.1 mem).1

/-- A new handler of the service comes behind those of others, which keep their order. -/
theorem Orderly.handlers_install (orderly : r.Orderly) (format : Format) :
    (r.install format).handlers = r.others ++ [⟨r.next, some format⟩] := by
  have kept : (r.handlers.filter fun h => some h.id ≠ r.installed) = r.others := by
    refine List.filter_congr fun h mem => ?_
    cases own : h.format with
    | none => simp [(orderly.apart h (mem_others.2 ⟨mem, by simp [own]⟩)).symm]
    | some _ => simp [orderly.tidy h (mem_own.2 ⟨mem, by simp [own]⟩)]
  rw [install, kept]

theorem Orderly.others_install (orderly : r.Orderly) (format : Format) :
    (r.install format).others = r.others := by
  rw [others, orderly.handlers_install, others]
  simp

theorem Orderly.install (orderly : r.Orderly) (format : Format) : (r.install format).Orderly where
  tidy := orderly.tidy.install format
  single := by simp [orderly.tidy.own_install]
  numbered h mem := by
    rw [orderly.handlers_install] at mem
    obtain old | rfl := by simpa using mem
    · exact Nat.lt_succ_of_lt (orderly.numbered h (mem_others.1 old).1)
    · exact Nat.lt_succ_self _
  apart h mem := by
    rw [orderly.others_install] at mem
    have older := orderly.numbered h (mem_others.1 mem).1
    simp [Root.install, (Nat.ne_of_lt older).symm]

theorem own_attach (r : Root) (id : Nat) : (r.attach id).own = r.own := by
  unfold attach
  split <;> simp [own]

theorem own_remove (r : Root) (id : Nat) : (r.remove id).own = r.own.filter fun h => h.id ≠ id := by
  simp only [own, remove, List.filter_filter, Bool.and_comm]

theorem Orderly.attach (orderly : r.Orderly) (id : Nat) : (r.attach id).Orderly := by
  unfold Root.attach
  split
  · exact orderly
  · rename_i fresh
    refine ⟨?_, ?_, ?_, ?_⟩
    · simpa [Tidy, own] using orderly.tidy
    · simpa [own] using orderly.single
    · intro h mem
      obtain old | rfl := by simpa using mem
      · exact Nat.lt_of_lt_of_le (orderly.numbered h old) (Nat.le_max_left _ _)
      · exact Nat.lt_of_lt_of_le (Nat.lt_succ_self _) (Nat.le_max_right _ _)
    · intro h mem
      obtain old | rfl : h ∈ r.others ∨ h = ⟨id, none⟩ := by simpa [others] using mem
      · exact orderly.apart h old
      · exact fun same => fresh (.inl same)

theorem Orderly.remove (orderly : r.Orderly) (id : Nat) : (r.remove id).Orderly where
  tidy := orderly.tidy.remove id
  single := Nat.le_trans (List.filter_sublist.filter _).length_le orderly.single
  numbered h mem := orderly.numbered h (List.mem_filter.1 mem).1
  apart h mem := by
    obtain ⟨left, other⟩ := mem_others.1 mem
    exact orderly.apart h (mem_others.2 ⟨(List.mem_filter.1 left).1, other⟩)

/-- A set-up installs a handler, and does nothing else but to set the level. -/
theorem setup_eq (r : Root) (level format : String) :
    ∃ number, (r.setup level format).1 = { r.install (.ofName format) with level := number } := by
  unfold setup
  split <;> exact ⟨_, rfl⟩

theorem Orderly.setup (orderly : r.Orderly) (level format : String) :
    (r.setup level format).1.Orderly := by
  obtain ⟨number, same⟩ := r.setup_eq level format
  have installed := orderly.install (.ofName format)
  rw [same]
  exact ⟨installed.tidy, installed.single, installed.numbered, installed.apart⟩

theorem Orderly.handlers_setup (orderly : r.Orderly) (level format : String) :
    (r.setup level format).1.handlers = r.others ++ [⟨r.next, some (.ofName format)⟩] := by
  obtain ⟨number, same⟩ := r.setup_eq level format
  rw [same]
  exact orderly.handlers_install _

end Steps

section Levels

/-- The names of levels with their numbers. Two levels have two names. -/
def levelNumbers : List (String × Int) :=
  [("CRITICAL", 50), ("FATAL", 50), ("ERROR", 40), ("WARNING", 30), ("WARN", 30), ("INFO", 20),
    ("DEBUG", 10), ("NOTSET", 0)]

/-- Names in capitals that stand for something else than a level. -/
def otherNames : List String := ["BASIC_FORMAT", "_STYLES"]

theorem notALevel?_eq_none {name : String} (other : name ∉ otherNames) : notALevel? name = none := by
  unfold notALevel?
  split <;> simp_all [otherNames]

/-- A name that is not known stands for INFO. -/
theorem ofName?_number (name : String) :
    ((Level.ofName? name).getD .info).number = (levelNumbers.lookup name).getD 20 := by
  by_cases known : name ∈ levelNumbers.map Prod.fst
  · revert name
    decide
  · have named : ∀ l ∈ Level.all, l.name ≠ name := by
      rintro l mem rfl
      exact known ((by decide : ∀ l ∈ Level.all, l.name ∈ levelNumbers.map Prod.fst) l mem)
    have unlisted : levelNumbers.lookup name = none := by
      rw [List.lookup_eq_none_iff]
      exact fun p mem => bne_iff_ne.2 fun same => known (same ▸ List.mem_map_of_mem mem)
    have unnamed : Level.ofName? name = none := by
      have second : name ≠ "WARN" ∧ name ≠ "FATAL" := by
        constructor <;> rintro rfl <;> exact known (by decide)
      rw [Level.ofName?, if_neg second.1, if_neg second.2, List.find?_eq_none]
      exact fun l mem same => named l mem (beq_iff_eq.1 same)
    rw [unlisted, unnamed]
    rfl

theorem levelNumber_eq {level : String} (other : Text.upper level ∉ otherNames) :
    levelNumber level = .ok ((levelNumbers.lookup (Text.upper level)).getD 20) := by
  simp only [levelNumber, notALevel?_eq_none other, ofName?_number]

end Levels

section Written

variable {r : Root}

/-- Only the handlers of the service write. -/
theorem formats_own (r : Root) : r.handlers.filterMap (·.format) = r.own.filterMap (·.format) := by
  rw [own, List.filterMap_filter]
  congr
  funext h
  cases h.format <;> rfl

/-- What a handler of the service writes for a record. -/
theorem emit_of_own {id : Nat} {format : Format} (only : r.own = [⟨id, some format⟩]) (time : String)
    (traces : Traces) {record : Record} (passes : r.passes record) :
    r.emit time traces record = (record.line time traces format).map fun text => [text] := by
  rw [emit, if_pos passes, formats_own, only]
  change [format].mapM (fun format => record.line time traces format) = _
  rw [List.mapM_cons, List.mapM_nil]
  cases record.line time traces format <;> rfl

/-- Nothing is written for a record, or one text. -/
theorem Orderly.emit (orderly : r.Orderly) (time : String) (traces : Traces) (record : Record) :
    r.emit time traces record = .ok [] ∨
      ∃ format, r.emit time traces record =
        (record.line time traces format).map fun text => [text] := by
  by_cases passes : r.passes record
  · cases only : r.own with
    | nil =>
      rw [Root.emit, if_pos passes, formats_own, only]
      exact .inl rfl
    | cons h rest =>
      have single := orderly.single
      obtain rfl : rest = [] := by simpa [only] using single
      have mem : h ∈ r.own := by simp [only]
      obtain ⟨format, has⟩ := Option.isSome_iff_exists.1 (mem_own.1 mem).2
      have own : r.own = [⟨h.id, some format⟩] := by rw [only, ← has]
      exact .inr ⟨format, emit_of_own own time traces passes⟩
  · exact .inl (if_neg passes)

end Written

end Root

/-- What can happen to the root of all loggers: logging is set up, directly or by an app that is
created; the service is launched; others attach a handler of theirs, or remove any handler. -/
inductive Step where
  | setup (level format : String)
  | launch (sources : Settings.Sources)
  | attach (id : Nat)
  | remove (id : Nat)

namespace Step

def apply (r : Root) : Step → Root
  | .setup level format => (r.setup level format).1
  | .launch sources => (QuoteService.launch r sources).root
  | .attach id => r.attach id
  | .remove id => r.remove id

/-- The level and the format that a launch sets logging up with: those of its settings, or its own to
report that they are invalid. -/
def launching (sources : Settings.Sources) : String × String :=
  match Settings.check sources with
  | .ok s => (s.logLevel, s.logFormat)
  | .error _ => ("INFO", "json")

theorem root_launch (r : Root) (sources : Settings.Sources) :
    (QuoteService.launch r sources).root = (r.setup (launching sources).1 (launching sources).2).1 := by
  unfold QuoteService.launch launching
  cases Settings.check sources <;> rfl

/-- The level and the format that a step sets logging up with. -/
def setup? : Step → Option (String × String)
  | .setup level format => some (level, format)
  | .launch sources => some (launching sources)
  | .attach _ | .remove _ => none

theorem apply_setup {step : Step} {level format : String} (sets : step.setup? = some (level, format))
    (r : Root) : step.apply r = (r.setup level format).1 := by
  cases step with
  | setup =>
    cases sets
    rfl
  | launch sources =>
    have same : launching sources = (level, format) := Option.some.inj sets
    rw [apply, root_launch, same]
  | attach | remove => cases sets

end Step

namespace Root

variable {r : Root}

def run (r : Root) (steps : List Step) : Root := steps.foldl Step.apply r

theorem Orderly.apply (orderly : r.Orderly) (step : Step) : (step.apply r).Orderly := by
  cases sets : step.setup? with
  | some named =>
    rw [Step.apply_setup sets]
    exact orderly.setup _ _
  | none =>
    cases step with
    | setup | launch => cases sets
    | attach id => exact orderly.attach id
    | remove id => exact orderly.remove id

theorem Orderly.run (orderly : r.Orderly) (steps : List Step) : (r.run steps).Orderly := by
  induction steps generalizing r with
  | nil => exact orderly
  | cons step rest ih => exact ih (orderly.apply step)

/-- The handler of the service stays where it is as long as logging is not set up again and nobody
removes it. -/
theorem own_run {own : Handler} (only : r.own = [own]) {steps : List Step}
    (quiet : ∀ step ∈ steps, step.setup? = none ∧ step ≠ .remove own.id) :
    (r.run steps).own = [own] := by
  induction steps generalizing r with
  | nil => exact only
  | cons step rest ih =>
    obtain ⟨⟨unset, spared⟩, later⟩ := List.forall_mem_cons.1 quiet
    refine ih ?_ later
    cases step with
    | setup | launch => cases unset
    | attach id => rw [Step.apply, own_attach, only]
    | remove id =>
      have other : own.id ≠ id := fun same => spared (same ▸ rfl)
      rw [Step.apply, own_remove, only]
      simp [other]

/-- What a set-up leaves: the handlers of others as they were, and behind them one of the service, which
is younger than all that were there. -/
structure SetUp (before after : Root) (level format : String) (own : Handler) : Prop where
  handlers : after.handlers = before.others ++ [own]
  others : after.others = before.others
  only : after.own = [own]
  newest : ∀ h ∈ before.handlers, h.id < own.id
  format : own.format = some .json ↔ format = "json"
  level : Text.upper level ∉ otherNames →
    after.level = (levelNumbers.lookup (Text.upper level)).getD 20

theorem Orderly.setUp (orderly : r.Orderly) (level format : String) :
    SetUp r (r.setup level format).1 level format ⟨r.next, some (.ofName format)⟩ where
  handlers := orderly.handlers_setup level format
  others := by
    obtain ⟨number, same⟩ := r.setup_eq level format
    rw [same]
    exact orderly.others_install _
  only := orderly.tidy.own_setup level format
  newest := orderly.numbered
  format := by
    unfold Format.ofName
    split <;> simp_all
  level known := level_setup (levelNumber_eq known) format

end Root

/-- Whatever has happened to a root on which there was no handler of the service: there is at most one
now, and a record is written at most once. A set-up that follows leaves exactly one, and the handlers of
others as they are; until the next one every record that passes is written exactly once, unless others
remove the handler or the record has no text. -/
theorem one_handler {r : Root} (bare : r.Bare) (steps : List Step) :
    let now := r.run steps
    now.own.length ≤ 1 ∧
    (∀ time traces record, now.emit time traces record = .ok [] ∨
      ∃ format, now.emit time traces record =
        (record.line time traces format).map fun text => [text]) ∧
    ∀ (step : Step) (level format : String), step.setup? = some (level, format) →
      let own : Handler := ⟨now.next, some (.ofName format)⟩
      let after := step.apply now
      Root.SetUp now after level format own ∧
      ∀ rest, (∀ s ∈ rest, s.setup? = none ∧ s ≠ .remove own.id) →
        ∀ time traces record, (after.run rest).passes record →
          ((after.run rest).emit time traces record =
              (record.line time traces (.ofName format)).map fun text => [text]) ∧
            (record.Formats → ∃ text, record.line time traces (.ofName format) = .ok text ∧
              (after.run rest).emit time traces record = .ok [text]) := by
  intro now
  have orderly := bare.orderly.run steps
  refine ⟨orderly.single, orderly.emit, fun step level format sets => ?_⟩
  have left := orderly.setUp level format
  rw [← Step.apply_setup sets] at left
  refine ⟨left, fun rest quiet time traces record passes => ?_⟩
  have written := Root.emit_of_own (Root.own_run left.only quiet) time traces passes
  refine ⟨written, fun formats => ?_⟩
  obtain ⟨text, line⟩ := formats.line time traces (.ofName format)
  exact ⟨text, line, by rw [written, line]; rfl⟩

/-- Logging is set up twice, and the first handler is removed in between; later others change only what
is theirs. -/
theorem one_handler_removed :
    let r : Root := ⟨[⟨0, none⟩], 30, none, 1⟩
    let now := r.run [.setup "debug" "json", .attach 7, .remove 1]
    let after := (now.setup " warn" "text").1
    let record := Record.plain .info "wisdom" "Listening"
    r.Bare ∧ after.handlers = [⟨0, none⟩, ⟨7, none⟩, ⟨8, some .text⟩] ∧ after.level = 20 ∧
      record.Formats ∧ (after.run [.remove 0, .attach 0]).emit "now" Failure.traceLine record =
        .ok ["now INFO wisdom - Listening"] := by
  intro r now after record
  have bare : r.Bare := ⟨rfl, by simp [r], by simp [r]⟩
  have next : now.next = 8 := by decide
  have quiet : ∀ s ∈ [Step.remove 0, Step.attach 0], s.setup? = none ∧ s ≠ .remove now.next := by
    simp [Step.setup?, next]
  obtain ⟨left, written⟩ := (one_handler bare [.setup "debug" "json", .attach 7, .remove 1]).2.2
    (.setup " warn" "text") " warn" "text" rfl
  have formats : record.Formats := ⟨⟨"Listening", rfl⟩, by decide⟩
  obtain ⟨text, line, emitted⟩ :=
    (written [.remove 0, .attach 0] quiet "now" Failure.traceLine record rfl).2 formats
  have words : record.line "now" Failure.traceLine .text = .ok "now INFO wisdom - Listening" := rfl
  obtain rfl : text = "now INFO wisdom - Listening" := Except.ok.inj (line.symm.trans words)
  exact ⟨bare, left.handlers, left.level (by decide), formats, emitted⟩

end QuoteService.Log
