import QuoteService.Proofs.Lifecycle.Release

/-! Which pool is published. While an app serves it is the pool that the current startup has built, and
its ping has been answered; a startup that fails leaves the app with the pool that it had. -/
namespace QuoteService.Lifecycle

/-- Nothing is interrupted; whatever goes wrong is a failure. -/
structure Conditions.Ordinary (c : Conditions) : Prop where
  session : c.session ≠ some .interruption
  ping : c.ping ≠ some .interruption
  close : c.close ≠ some .interruption

/-- Every step of a start succeeds. -/
structure Conditions.Succeed (c : Conditions) : Prop where
  construction : c.construction = none
  session : c.session = none
  ping : c.ping = none
  close : c.close = none

section Health

variable {c : Conditions} {pool : Nat}

theorem health_eq_none : c.health = none ↔ c.session = none ∧ c.ping = none ∧ c.close = none := by
  unfold Conditions.health
  cases c.session with
  | some stop => simp
  | none => cases c.close <;> simp

theorem succeed_iff : c.Succeed ↔ c.construction = none ∧ c.health = none := by
  rw [health_eq_none]
  exact ⟨fun h => ⟨h.construction, h.session, h.ping, h.close⟩,
    fun ⟨built, session, ping, close⟩ => ⟨built, session, ping, close⟩⟩

theorem Conditions.Ordinary.health (ordinary : c.Ordinary) : c.health ≠ some .interruption := by
  unfold Conditions.health
  cases session : c.session with
  | some stop => exact fun same => ordinary.session (session.trans same)
  | none =>
    cases close : c.close with
    | some stop => exact fun same => ordinary.close (close.trans same)
    | none => exact ordinary.ping

/-- Without interruptions a health check always answers. -/
theorem answer_checkHealth (ordinary : c.Ordinary) :
    (checkHealth c pool).answer = .ok c.health.isNone := by
  have answers := ordinary.health
  rw [checkHealth_eq]
  match c.health, answers with
  | none, _ => rfl
  | some (.failure _), _ => rfl

theorem events_checkHealth (c : Conditions) (pool : Nat) :
    (checkHealth c pool).events = (ping c pool).2 := by
  rw [checkHealth_eq]
  split <;> rfl

/-- A health check opens one session or none, and closes what it has opened. -/
theorem count_sessions (c : Conditions) (pool other : Nat) :
    let opened := if c.session.isNone ∧ pool = other then 1 else 0
    (ping c pool).2.count (.sessionOpened other) = opened ∧
      (ping c pool).2.count (.sessionClosed other) = opened := by
  rw [events_ping]
  cases c.session with
  | some stop => simp
  | none => by_cases same : pool = other <;> simp [same]

end Health

/-- The ways a startup can go if nothing is interrupted. -/
inductive Started (app : App) (c : Conditions) : Start → Prop
  | unbuilt {failure : Failure} (failed : c.construction = some failure) :
    Started app c ⟨app, some (.failure failure), [opening], []⟩
  | refused {failure : Failure} (built : c.construction = none)
    (stopped : c.health = some (.failure failure)) :
    Started app c ⟨{ app with built := app.built + 1 }, some (.failure pingFailure),
      [opening, pinging, unhealthy failure, pingFailed],
      .built app.built :: (ping c app.built).2 ++ [.disposed app.built]⟩
  | completed (success : c.Succeed) :
    Started app c ⟨⟨some app.built, app.built + 1⟩, none, [opening, pinging, pingSucceeded],
      [.built app.built, .sessionOpened app.built, .pinged app.built, .sessionClosed app.built]⟩

theorem started_of_ordinary (app : App) {c : Conditions} (ordinary : c.Ordinary) :
    Started app c (start app c) := by
  have failures := ordinary.health
  unfold start
  cases built : c.construction with
  | some failure => exact .unbuilt built
  | none =>
    simp only [checkHealth_eq]
    cases health : c.health with
    | some stop =>
      cases stop with
      | interruption => exact absurd health failures
      | failure failure => exact .refused built health
    | none =>
      have success := succeed_iff.2 ⟨built, health⟩
      have completed : Started app c _ := .completed success
      simpa [events_ping, success.session] using completed

section Startup

variable {app : App} {c : Conditions} {started : Start}

theorem Started.completes (way : Started app c started) : started.stopped = none ↔ c.Succeed := by
  cases way with
  | unbuilt failed => simp [succeed_iff, failed]
  | refused _ stopped => simp [succeed_iff, stopped]
  | completed success => exact ⟨fun _ => success, fun _ => rfl⟩

/-- A startup that fails publishes nothing. -/
theorem Started.unpublished (way : Started app c started) (failed : ¬ c.Succeed) :
    started.app.published = app.published := by
  cases way with
  | unbuilt _ => rfl
  | refused _ _ => rfl
  | completed success => exact absurd success failed

/-- A startup whose ping fails raises a failure of its own, after it has disposed of its pool. -/
theorem Started.disposes (way : Started app c started) (built : c.construction = none)
    (failed : ¬ c.Succeed) :
    started.stopped = some (.failure (.fault .runtime (some "Database ping failed"))) ∧
      disposals started.events = 1 ∧ started.events.getLast? = some (.disposed app.built) := by
  cases way with
  | unbuilt unbuilt => simp [built] at unbuilt
  | refused _ _ => exact ⟨rfl, by simp, List.getLast?_concat⟩
  | completed success => exact absurd success failed

end Startup

/-- A run that serves: its pool, and how its start went. -/
structure Serving where
  pool : Nat
  conditions : Conditions

/-- An app with all that has happened to its pools, and the run by which it serves, if it does. -/
structure History where
  app : App
  serving : Option Serving
  events : List Event

namespace History

def startup (h : History) (c : Conditions) : History :=
  let started := start h.app c
  ⟨started.app, if started.stopped.isNone then some ⟨h.app.built, c⟩ else none,
    h.events ++ started.events⟩

def shutdown (h : History) (run : Serving) : History :=
  ⟨h.app, none, h.events ++ (finish run.pool .shutdown).events⟩

/-- What startups and shutdowns of one app lead to, one run at a time. -/
inductive Reached : History → Prop
  | fresh (app : App) : Reached ⟨app, none, []⟩
  | startup {h : History} {c : Conditions} (earlier : Reached h) (idle : h.serving = none)
    (ordinary : c.Ordinary) : Reached (h.startup c)
  | shutdown {h : History} {run : Serving} (earlier : Reached h) (serving : h.serving = some run) :
    Reached (h.shutdown run)

/-- What holds whenever an app serves, and of all sessions that were ever opened for a ping. -/
structure Steady (h : History) : Prop where
  published : ∀ run, h.serving = some run → h.app.published = some run.pool
  current : ∀ run, h.serving = some run → h.app.built = run.pool + 1 ∧ run.conditions.Succeed ∧
    [.built run.pool, .sessionOpened run.pool, .pinged run.pool, .sessionClosed run.pool] <:+ h.events
  closed : ∀ pool, h.events.count (.sessionOpened pool) = h.events.count (.sessionClosed pool)

variable {h : History} {c : Conditions}

theorem Steady.startup (steady : h.Steady) (ordinary : c.Ordinary) : (h.startup c).Steady := by
  have way := started_of_ordinary h.app ordinary
  unfold History.startup
  generalize start h.app c = started at way
  cases way with
  | unbuilt failed => exact ⟨nofun, nofun, by simpa using steady.closed⟩
  | refused built stopped =>
    refine ⟨nofun, nofun, fun pool => ?_⟩
    obtain ⟨opened, closed⟩ := count_sessions c h.app.built pool
    simp [opened, closed, steady.closed pool]
  | completed success =>
    refine ⟨?_, ?_, fun pool => ?_⟩
    · rintro run ⟨⟩
      rfl
    · rintro run ⟨⟩
      exact ⟨rfl, success, List.suffix_append _ _⟩
    · by_cases own : h.app.built = pool <;> simp [own, steady.closed pool]

theorem Steady.shutdown (steady : h.Steady) (run : Serving) : (h.shutdown run).Steady :=
  ⟨nofun, nofun, fun pool => by simp [History.shutdown, finish, steady.closed pool]⟩

theorem Reached.steady (reached : h.Reached) : h.Steady := by
  induction reached with
  | fresh app => exact ⟨nofun, nofun, fun _ => rfl⟩
  | startup _ _ ordinary steady => exact steady.startup ordinary
  | shutdown _ _ steady => exact steady.shutdown _

end History

/-- Under ordinary conditions a startup is completed exactly if all its steps succeed; one that fails
publishes nothing, and one whose ping fails has disposed of its own pool; a health check answers, and
closes the session that it has opened, if any. So whatever startups and shutdowns an app has gone
through, it serves from the pool that its current startup has built and pinged. -/
theorem published_pinged :
    (∀ (app : App) (c : Conditions), c.Ordinary →
      ((start app c).stopped = none ↔ c.Succeed) ∧
      (¬ c.Succeed → (start app c).app.published = app.published) ∧
      (c.construction = none → ¬ c.Succeed →
        (start app c).stopped = some (.failure (.fault .runtime (some "Database ping failed"))) ∧
        disposals (start app c).events = 1 ∧
        (start app c).events.getLast? = some (.disposed app.built)) ∧
      ∀ pool, (∃ healthy, (checkHealth c pool).answer = .ok healthy) ∧
        (checkHealth c pool).events.count (.sessionOpened pool) =
          (if c.session.isNone then 1 else 0) ∧
        (checkHealth c pool).events.count (.sessionClosed pool) =
          (checkHealth c pool).events.count (.sessionOpened pool)) ∧
    ∀ h : History, h.Reached → h.Steady := by
  refine ⟨fun app c ordinary => ?_, fun h reached => reached.steady⟩
  have way := started_of_ordinary app ordinary
  refine ⟨way.completes, way.unpublished, way.disposes,
    fun pool => ⟨⟨_, answer_checkHealth ordinary⟩, ?_⟩⟩
  rw [events_checkHealth]
  obtain ⟨opened, closed⟩ := count_sessions c pool pool
  exact ⟨by simpa using opened, closed.trans opened.symm⟩

/-- An app that has been shut down, whose next startup cannot close the session of its ping, and which
then serves again. -/
theorem published_pinged_restarted :
    let lost := Stop.failure (.fault .operational (some "connection lost"))
    let calm : Conditions := ⟨none, none, none, none⟩
    let shaken : Conditions := ⟨none, none, none, some lost⟩
    let stale := ((⟨.initial, none, []⟩ : History).startup calm).shutdown ⟨0, calm⟩
    let h := (stale.startup shaken).startup calm
    (start stale.app shaken).app.published = some 0 ∧
      (start stale.app shaken).events.getLast? = some (.disposed 1) ∧
      h.serving = some ⟨2, calm⟩ ∧ h.app.published = some 2 := by
  intro lost calm shaken stale h
  have quiet : calm.Ordinary := ⟨nofun, nofun, nofun⟩
  have ordinary : shaken.Ordinary := ⟨nofun, nofun, by simp [shaken, lost]⟩
  have failed : ¬ shaken.Succeed := fun success => Option.some_ne_none lost success.close
  have reached : h.Reached :=
    .startup (.startup (.shutdown (.startup (.fresh _) rfl quiet) rfl) rfl ordinary) rfl quiet
  obtain ⟨-, unpublished, disposes, -⟩ := published_pinged.1 stale.app shaken ordinary
  exact ⟨unpublished failed, (disposes rfl failed).2.2, rfl,
    (published_pinged.2 h reached).published _ rfl⟩

end QuoteService.Lifecycle
