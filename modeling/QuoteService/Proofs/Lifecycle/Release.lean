import Mathlib.Tactic.Common
import QuoteService.Lifecycle

/-! Which pools are disposed of. A run disposes of the pool that it has built once, and as the last
thing it does, if the ping fails or the service is shut down. An interruption of the ping, or what is
thrown into a service while it serves, ends the run before that, and leaves the pool open. -/
namespace QuoteService.Lifecycle

/-- What a run meets with: how the steps of its start go, and how its serving ends if it comes to
that. -/
structure Course where
  conditions : Conditions
  ending : Ending

/-- What a ping ends with, if anything goes wrong. -/
def Conditions.health (c : Conditions) : Option Stop :=
  match c.session with
  | some stop => some stop
  | none => c.close <|> c.ping

/-- Whether a run has built a pool, and is then ended by something that no disposal waits for. -/
def Course.isBypassing (course : Course) : Bool :=
  match course.conditions.construction, course.conditions.health, course.ending with
  | none, some .interruption, _ => true
  | none, none, .thrown _ => true
  | _, _, _ => false

/-- Runs of one app, one after the other, with all that happened to their pools. -/
def runs (app : App) : List Course → App × List Event
  | [] => (app, [])
  | course :: rest =>
    let first := run app course.conditions course.ending
    let later := runs first.1 rest
    (later.1, first.2 ++ later.2)

section Ping

variable (c : Conditions) (pool : Nat)

/-- The session of a ping is closed whether it succeeds or not. -/
theorem events_ping : (ping c pool).2 =
    if c.session.isSome then [] else [.sessionOpened pool, .pinged pool, .sessionClosed pool] := by
  unfold ping
  cases c.session with
  | some stop => rfl
  | none => exact Session.events_bracket ..

theorem outcome_ping : (ping c pool).1 = c.health.elim (.ok ()) .error := by
  unfold ping Conditions.health
  cases c.session with
  | some stop => rfl
  | none => cases c.close <;> cases c.ping <;> rfl

/-- What comes of a health check is decided by what its ping ends with. -/
theorem checkHealth_eq : checkHealth c pool =
    match c.health with
    | none => ⟨.ok true, [], (ping c pool).2⟩
    | some (.failure failure) => ⟨.ok false, [unhealthy failure], (ping c pool).2⟩
    | some .interruption => ⟨.error .interruption, [], (ping c pool).2⟩ := by
  have outcome := outcome_ping c pool
  unfold checkHealth
  generalize ping c pool = pinged at outcome
  obtain ⟨answer, events⟩ := pinged
  obtain rfl : answer = _ := outcome
  match c.health with
  | none => rfl
  | some (.failure _) => rfl
  | some .interruption => rfl

/-- A ping neither builds pools nor disposes of them. -/
theorem mem_ping {e : Event} (mem : e ∈ (ping c pool).2) :
    ∀ other, e ≠ .built other ∧ e ≠ .disposed other := by
  intro other
  rw [events_ping] at mem
  split at mem
  · cases mem
  · simp only [List.mem_cons, List.not_mem_nil, or_false] at mem
    obtain rfl | rfl | rfl := mem <;> simp

end Ping

/-- The ways a run can take, each with the state that it leaves and what happened to its pool. -/
inductive Taken (app : App) (course : Course) : App × List Event → Prop
  | unbuilt {failure : Failure} (failed : course.conditions.construction = some failure) :
    Taken app course (app, [])
  | interrupted (built : course.conditions.construction = none)
    (stopped : course.conditions.health = some .interruption) :
    Taken app course ({ app with built := app.built + 1 },
      .built app.built :: (ping course.conditions app.built).2)
  | refused {failure : Failure} (built : course.conditions.construction = none)
    (stopped : course.conditions.health = some (.failure failure)) :
    Taken app course ({ app with built := app.built + 1 },
      .built app.built :: (ping course.conditions app.built).2 ++ [.disposed app.built])
  | shutDown (built : course.conditions.construction = none)
    (healthy : course.conditions.health = none) (ending : course.ending = .shutdown) :
    Taken app course (⟨some app.built, app.built + 1⟩,
      .built app.built :: (ping course.conditions app.built).2 ++ [.disposed app.built])
  | thrown {stop : Stop} (built : course.conditions.construction = none)
    (healthy : course.conditions.health = none) (ending : course.ending = .thrown stop) :
    Taken app course (⟨some app.built, app.built + 1⟩,
      .built app.built :: (ping course.conditions app.built).2)

theorem taken_run (app : App) (course : Course) :
    Taken app course (run app course.conditions course.ending) := by
  unfold run start
  cases construction : course.conditions.construction with
  | some failure => exact .unbuilt construction
  | none =>
    simp only [checkHealth_eq]
    cases health : course.conditions.health with
    | some stop =>
      cases stop with
      | interruption => exact .interrupted construction health
      | failure failure => exact .refused construction health
    | none =>
      cases ending : course.ending with
      | shutdown => exact .shutDown construction health ending
      | thrown stop => simpa [finish] using Taken.thrown construction health ending

section Counts

def Event.isBuilt : Event → Bool
  | .built _ => true
  | _ => false

def Event.isDisposed : Event → Bool
  | .disposed _ => true
  | _ => false

/-- How many pools have been opened. -/
def opened (events : List Event) : Nat := events.countP Event.isBuilt

/-- How often a pool has been disposed of. -/
def disposals (events : List Event) : Nat := events.countP Event.isDisposed

@[simp] theorem opened_append (events more : List Event) :
    opened (events ++ more) = opened events + opened more := List.countP_append

@[simp] theorem disposals_append (events more : List Event) :
    disposals (events ++ more) = disposals events + disposals more := List.countP_append

variable (c : Conditions) (pool : Nat)

@[simp] theorem opened_built (events : List Event) :
    opened (.built pool :: events) = opened events + 1 :=
  List.countP_cons_of_pos rfl

@[simp] theorem disposals_built (events : List Event) :
    disposals (.built pool :: events) = disposals events :=
  List.countP_cons_of_neg Bool.false_ne_true

@[simp] theorem opened_disposed : opened [.disposed pool] = 0 := rfl

@[simp] theorem disposals_disposed : disposals [.disposed pool] = 1 := rfl

@[simp] theorem opened_ping : opened (ping c pool).2 = 0 := by
  rw [events_ping]
  split <;> rfl

@[simp] theorem disposals_ping : disposals (ping c pool).2 = 0 := by
  rw [events_ping]
  split <;> rfl

end Counts

section Run

variable {app : App} {course : Course} {result : App × List Event}

/-- A run disposes of as many pools as it opens, unless it passes by the disposal. -/
theorem Taken.opened (way : Taken app course result) :
    Lifecycle.opened result.2 = disposals result.2 + if course.isBypassing then 1 else 0 := by
  cases way with
  | unbuilt failed => simp [Course.isBypassing, failed, Lifecycle.opened, disposals]
  | interrupted built stopped => simp [Course.isBypassing, built, stopped]
  | refused built stopped => simp [Course.isBypassing, built, stopped]
  | shutDown built healthy ending => simp [Course.isBypassing, built, healthy, ending]
  | thrown built healthy ending => simp [Course.isBypassing, built, healthy, ending]

theorem count_ping (c : Conditions) (pool : Nat) :
    (ping c pool).2.count (.built pool) = 0 ∧ (ping c pool).2.count (.disposed pool) = 0 := by
  simp only [List.count_eq_zero]
  exact ⟨fun mem => (mem_ping c pool mem pool).1 rfl, fun mem => (mem_ping c pool mem pool).2 rfl⟩

/-- What a run does to the pool that it has built. -/
theorem Taken.disposed (way : Taken app course result)
    (built : course.conditions.construction = none) :
    result.2.count (.built app.built) = 1 ∧
      result.2.count (.disposed app.built) = (if course.isBypassing then 0 else 1) ∧
      (course.isBypassing = false → result.2.getLast? = some (.disposed app.built)) := by
  have quiet := count_ping course.conditions app.built
  cases way with
  | unbuilt failed => simp [built] at failed
  | interrupted _ stopped => simp [Course.isBypassing, built, stopped, quiet]
  | refused _ stopped =>
    exact ⟨by simp [quiet], by simp [Course.isBypassing, built, stopped, quiet],
      fun _ => List.getLast?_concat⟩
  | shutDown _ healthy ending =>
    exact ⟨by simp [quiet], by simp [Course.isBypassing, built, healthy, ending, quiet],
      fun _ => List.getLast?_concat⟩
  | thrown _ healthy ending => simp [Course.isBypassing, built, healthy, ending, quiet]

end Run

/-- Over any runs, as many pools are left open as runs have passed by the disposal. -/
theorem opened_runs (app : App) (courses : List Course) :
    let events := (runs app courses).2
    opened events = disposals events + courses.countP Course.isBypassing := by
  induction courses generalizing app with
  | nil => rfl
  | cons course rest ih =>
    have first := (taken_run app course).opened
    have later := ih (run app course.conditions course.ending).1
    simp only [runs, opened_append, disposals_append, List.countP_cons] at first later ⊢
    omega

/-- A run disposes of the pool that it has built once, and last of all, unless its ping is interrupted
or something is thrown into its serving; then it never does. So of the pools that runs of an app have
opened there are left open as many as runs were ended in one of these ways. -/
theorem pools_released (app : App) :
    (∀ course : Course, course.conditions.construction = none →
      let events := (run app course.conditions course.ending).2
      events.count (.built app.built) = 1 ∧
        events.count (.disposed app.built) = (if course.isBypassing then 0 else 1) ∧
        (course.isBypassing = false → events.getLast? = some (.disposed app.built))) ∧
    ∀ courses : List Course,
      let events := (runs app courses).2
      opened events = disposals events + courses.countP Course.isBypassing ∧
        (opened events = disposals events ↔ ∀ course ∈ courses, course.isBypassing = false) := by
  refine ⟨fun course built => (taken_run app course).disposed built, fun courses => ?_⟩
  have left := opened_runs app courses
  refine ⟨left, ?_⟩
  have none : courses.countP Course.isBypassing = 0 ↔
      ∀ course ∈ courses, course.isBypassing = false := by
    simp [List.countP_eq_zero]
  rw [← none]
  simp only at left
  omega

/-- The second run of an app, whose database cannot be reached. -/
theorem pools_released_refused :
    let refused := Stop.failure (.fault .operational (some "unable to open database file"))
    let course : Course := ⟨⟨none, none, some refused, none⟩, .shutdown⟩
    let events := (run ⟨some 0, 1⟩ course.conditions course.ending).2
    course.conditions.construction = none ∧
      events.count (.disposed 1) = 1 ∧ events.getLast? = some (.disposed 1) := by
  intro refused course events
  obtain ⟨-, once, last⟩ := (pools_released ⟨some 0, 1⟩).1 course rfl
  exact ⟨rfl, once, last rfl⟩

/-- Two runs that leave their pool open: an error is thrown into the first while it serves, and the
ping of the second is interrupted. -/
theorem pools_left_open :
    let boom := Stop.failure (.fault .runtime (some "boom"))
    let thrown := (run .initial ⟨none, none, none, none⟩ (.thrown boom)).2
    let interrupted := (run .initial ⟨none, none, some .interruption, none⟩ .shutdown).2
    thrown.count (.built 0) = 1 ∧ thrown.count (.disposed 0) = 0 ∧
      interrupted.count (.built 0) = 1 ∧ interrupted.count (.disposed 0) = 0 := by
  decide

end QuoteService.Lifecycle
