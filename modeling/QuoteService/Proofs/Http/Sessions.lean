import Mathlib.Data.Finset.Basic
import QuoteService.Proofs.Database.Fault
import QuoteService.Proofs.Http.Identity

/-! The sessions of an app over any number of requests. Each exchange leaves a whole life of one session
or nothing, so however the exchanges are woven into one another, every session is used while it is open
and none is open at the end. -/
namespace QuoteService.Http

/-- What happens to a session on which some statements are executed, from end to end. -/
def SessionEvent.life (statements : List Lookup) : List SessionEvent :=
  .opened :: statements.map .executed ++ [.closed]

/-- What happened to the sessions of an app, in the order of time. A session goes by the number of the
request that it is for. -/
abbrev SessionLog := List (Nat × SessionEvent)

namespace SessionLog

/-- What happened to one session. -/
def of (log : SessionLog) (i : Nat) : List SessionEvent :=
  log.filterMap fun (j, e) => if j = i then some e else none

/-- The sessions that are open after one more event, if it can happen: none is opened twice, and what
is not open is neither used nor closed. -/
def step (active : Finset Nat) : Nat × SessionEvent → Option (Finset Nat)
  | (i, .opened) => if i ∈ active then none else some (insert i active)
  | (i, .executed _) => if i ∈ active then some active else none
  | (i, .closed) => if i ∈ active then some (active.erase i) else none

/-- The sessions that are open after all of a log. -/
def openAfter (log : SessionLog) (active : Finset Nat) : Option (Finset Nat) :=
  log.foldlM step active

/-- The log of exchanges that may overlap in time: each has its own session. -/
def Weaves (traces : List (List SessionEvent)) (log : SessionLog) : Prop :=
  ∀ i, log.of i = traces[i]?.getD []

/-- The log of exchanges one after the other, by their numbers from the first on. -/
def inTurn : (first : Nat) → List (List SessionEvent) → SessionLog
  | _, [] => []
  | first, trace :: rest => trace.map (first, ·) ++ inTurn (first + 1) rest

section Of

variable (log more : SessionLog) (i : Nat)

@[simp] theorem of_nil : of [] i = [] := rfl

@[simp] theorem of_append : of (log ++ more) i = log.of i ++ more.of i := List.filterMap_append

@[simp] theorem of_cons_self (e : SessionEvent) : of ((i, e) :: log) i = e :: log.of i := by
  simp [of]

theorem of_cons_ne {j : Nat} (other : j ≠ i) (e : SessionEvent) :
    of ((i, e) :: log) j = log.of j := by
  simp [of, other.symm]

theorem of_trace (trace : List SessionEvent) (j : Nat) :
    of (trace.map (i, ·)) j = if i = j then trace else [] := by
  split <;> rename_i same <;> simp [of, List.filterMap_map, same]

end Of

theorem of_inTurn (traces : List (List SessionEvent)) (first i : Nat) :
    (inTurn first traces).of i = if first ≤ i then traces[i - first]?.getD [] else [] := by
  induction traces generalizing first with
  | nil => simp [inTurn]
  | cons trace rest ih =>
    rw [inTurn, of_append, of_trace, ih]
    obtain before | rfl | after := Nat.lt_trichotomy i first
    · have late : ¬ first ≤ i ∧ ¬ first + 1 ≤ i ∧ first ≠ i := by omega
      simp [late]
    · simp
    · have early : first ≤ i ∧ first + 1 ≤ i ∧ first ≠ i ∧ i - first = i - (first + 1) + 1 := by
        omega
      simp [early]

/-- Exchanges one after the other are a case of exchanges that may overlap. -/
theorem weaves_inTurn (traces : List (List SessionEvent)) : Weaves traces (inTurn 0 traces) :=
  fun i => by simp [of_inTurn]

/-- A log under which everything ends well: what is open is used for a while and then closed, and of
every other session there is a whole life to come, or nothing. -/
structure Settles (active : Finset Nat) (log : SessionLog) : Prop where
  used : ∀ i ∈ active, ∃ qs : List Lookup, log.of i = qs.map .executed ++ [.closed]
  unused : ∀ i ∉ active, log.of i = [] ∨ ∃ qs, log.of i = SessionEvent.life qs

section Settles

variable {active next : Finset Nat} {i : Nat} {e : SessionEvent} {log : SessionLog}

/-- An event changes nothing for the other sessions. -/
theorem Settles.of_cons (h : Settles active ((i, e) :: log))
    (others : ∀ j, j ≠ i → (j ∈ next ↔ j ∈ active))
    (used : i ∈ next → ∃ qs : List Lookup, log.of i = qs.map .executed ++ [.closed])
    (unused : i ∉ next → log.of i = []) : Settles next log where
  used j mem := by
    by_cases same : j = i
    · subst same
      exact used mem
    · rw [← of_cons_ne log i same e]
      exact h.used j ((others j same).1 mem)
  unused j out := by
    by_cases same : j = i
    · subst same
      exact .inl (unused out)
    · rw [← of_cons_ne log i same e]
      exact h.unused j fun mem => out ((others j same).2 mem)

/-- The next event can happen, and everything still ends well. -/
theorem Settles.step (h : Settles active ((i, e) :: log)) :
    ∃ next, SessionLog.step active (i, e) = some next ∧ Settles next log := by
  by_cases mem : i ∈ active
  · obtain ⟨qs, course⟩ := h.used i mem
    rw [of_cons_self] at course
    -- what is ahead of an open session tells its next event: the closing if no statement is left
    cases qs with
    | nil =>
      obtain ⟨rfl, ended⟩ := List.cons.inj course
      refine ⟨active.erase i, by simp [SessionLog.step, mem], h.of_cons ?_ ?_ fun _ => ended⟩
      · intro j other
        simp [other]
      · intro still
        simp at still
    | cons q qs =>
      obtain ⟨rfl, rest⟩ := List.cons.inj course
      exact ⟨active, by simp [SessionLog.step, mem], h.of_cons (fun _ _ => Iff.rfl)
        (fun _ => ⟨qs, rest⟩) (absurd mem)⟩
  · obtain nothing | ⟨qs, course⟩ := h.unused i mem
    · simp at nothing
    · rw [of_cons_self] at course
      obtain ⟨rfl, rest⟩ := List.cons.inj course
      refine ⟨insert i active, by simp [SessionLog.step, mem],
        h.of_cons ?_ (fun _ => ⟨qs, rest⟩) ?_⟩
      · intro j other
        simp [other]
      · intro out
        simp at out

/-- A log that settles can happen from its first event to its last, and leaves no session open. -/
theorem Settles.openAfter (h : Settles active log) : log.openAfter active = some ∅ := by
  induction log generalizing active with
  | nil =>
    have closed : active = ∅ := by
      rw [Finset.eq_empty_iff_forall_notMem]
      intro i mem
      obtain ⟨qs, course⟩ := h.used i mem
      simp at course
    rw [closed]
    rfl
  | cons event log ih =>
    obtain ⟨next, taken, settles⟩ := h.step
    rw [SessionLog.openAfter, List.foldlM_cons, taken]
    exact ih settles

end Settles

/-- Whole lives settle in any weaving. -/
theorem Weaves.settles {traces : List (List SessionEvent)} {log : SessionLog}
    (weaves : Weaves traces log) (whole : ∀ t ∈ traces, t = [] ∨ ∃ qs, t = SessionEvent.life qs) :
    Settles ∅ log where
  used i mem := by simp at mem
  unused i _ := by
    rw [weaves i]
    cases found : traces[i]? with
    | none => exact .inl rfl
    | some trace => exact whole trace (List.mem_of_getElem? found)

end SessionLog

/-- A request, and how it finds the app: the statements of its database, if it has one, and what will
be drawn. -/
structure Call where
  database : Option Statements
  draw : Assembly.Draw
  request : Request

/-- A request that wants data: a GET of a path that leads to more than the index. -/
structure Service.Wants (s : Service) (r : Request) (route : Route) : Prop where
  found : Route.ofPath? s.templates r.path = some route
  get : r.method = "GET"
  data : route ≠ .index

theorem Route.plan?_of_ne {route : Route} (data : route ≠ .index) (draw : Assembly.Draw) :
    ∃ plan, route.plan? draw = some plan := by
  cases route with
  | index => exact absurd rfl data
  | _ => exact ⟨_, rfl⟩

namespace Service

/-- The exchange of a call. -/
def exchange (s : Service) (c : Call) : Exchange := s.serve c.database c.draw c.request

variable {s : Service} {c : Call}

/-- A request whose address cannot be read does not come to a handler. -/
theorem events_exchange_unread {f : Failure} (unread : c.request.address = .error f) :
    (s.exchange c).events = [] := by
  rw [exchange, serve, unread]

/-- A request that wants no data does not come to a session. -/
theorem events_exchange_idle (idle : ∀ route, ¬ s.Wants c.request route) :
    (s.exchange c).events = [] := by
  cases address : c.request.address with
  | error f => exact events_exchange_unread address
  | ok a =>
    rw [exchange, events_serve address]
    unfold handle
    split
    · rfl
    · rename_i route found
      split
      · rename_i get
        have index : route = .index := not_not.1 fun data => idle route ⟨found, get, data⟩
        rw [index]
        rfl
      · rfl

section Wants

variable {route : Route} (wants : s.Wants c.request route)

include wants

theorem handle_of_wants : s.handle c.database c.draw c.request =
    s.handleRoute c.database c.draw c.request.query route := by
  rw [handle, wants.found]
  exact if_pos wants.get

/-- One that wants data has a session to itself, whatever comes of its statements. -/
theorem events_exchange_connected {a : Address} (address : c.request.address = .ok a)
    {statements : Statements} (connected : c.database = some statements) :
    ∃ plan, route.plan? c.draw = some plan ∧ (s.exchange c).events =
      SessionEvent.life (plan.run (Store.repository statements)).lookups := by
  obtain ⟨plan, planned⟩ := Route.plan?_of_ne wants.data c.draw
  refine ⟨plan, planned, ?_⟩
  rw [exchange, events_serve address, handle_of_wants wants, connected, handleRoute, planned]
  exact Session.events_bracket ..

/-- Without a database its handler fails before there is a session. -/
theorem handle_unconnected (unconnected : c.database = none) :
    s.handle c.database c.draw c.request = ⟨.error noDatabase, []⟩ := by
  obtain ⟨plan, planned⟩ := Route.plan?_of_ne wants.data c.draw
  rw [handle_of_wants wants, unconnected, handleRoute, planned]

end Wants

/-- Every exchange leaves the whole life of one session, or nothing. -/
theorem events_exchange_whole (s : Service) (c : Call) :
    (s.exchange c).events = [] ∨ ∃ qs, (s.exchange c).events = SessionEvent.life qs := by
  cases address : c.request.address with
  | error f => exact .inl (events_exchange_unread address)
  | ok a =>
    by_cases idle : ∀ route, ¬ s.Wants c.request route
    · exact .inl (events_exchange_idle idle)
    · obtain ⟨route, wants⟩ := not_forall_not.1 idle
      cases database : c.database with
      | none =>
        rw [exchange, events_serve address, handle_unconnected wants database]
        exact .inl rfl
      | some statements =>
        obtain ⟨plan, -, events⟩ := events_exchange_connected wants address database
        exact .inr ⟨_, events⟩

/-- A request that wants data has one session, on which all of its statements are executed, and which
is closed after the last of them, however the request ends; it has none without a database, and is
answered by the generic error then, if the service can answer at all. Other requests come to no session,
whatever database there is. So no session is open after any number of requests, one after the other or
woven into one another, and none was used but between its opening and its only closing. -/
theorem sessions_balanced (settings : Settings) :
    let s := Service.ofSettings settings
    (∀ (c : Call) (route : Route), s.Wants c.request route → c.request.Received →
      (∀ statements, c.database = some statements →
        ∃ plan, route.plan? c.draw = some plan ∧ (s.exchange c).events =
          SessionEvent.life (plan.run (Store.repository statements)).lookups) ∧
      (c.database = none → (s.exchange c).events = [] ∧
        (s.Sendable → (s.exchange c).Answers s 500
          ((ErrorBody.mk ServiceError.genericMessage 500).toJson.render .compact)) ∧
        (¬ s.Sendable → (s.exchange c).response = none))) ∧
    (∀ c : Call, (c.request.method ≠ "GET" ∨
        Route.ofPath? s.templates c.request.path ∈ [none, some .index]) →
      (s.exchange c).events = []) ∧
    ∀ calls : List Call,
      let traces := calls.map fun c => (s.exchange c).events
      (SessionLog.inTurn 0 traces).openAfter ∅ = some ∅ ∧
        ∀ log, SessionLog.Weaves traces log → log.openAfter ∅ = some ∅ := by
  intro s
  refine ⟨fun c route wants received => ?_, fun c other => ?_, ?_⟩
  · obtain ⟨url, address⟩ := c.request.address_received received
    refine ⟨fun statements => events_exchange_connected wants address, fun unconnected => ?_⟩
    have handled := handle_unconnected wants unconnected
    refine ⟨?_, fun sendable => ?_, fun unsendable => ?_⟩
    · rw [exchange, events_serve address, handled]
    · exact serve_of_error sendable address (congrArg Handled.outcome handled)
        (answerable_of_isExpected (.plain trivial))
    · exact (serve_unsendable unsendable c.database c.draw address).1
  · refine events_exchange_idle fun route wants => ?_
    obtain method | path := other
    · exact method wants.get
    · simp [wants.found, wants.data] at path
  · intro calls traces
    have whole : ∀ t ∈ traces, t = [] ∨ ∃ qs, t = SessionEvent.life qs := by
      intro t mem
      obtain ⟨c, -, rfl⟩ := List.mem_map.1 mem
      exact events_exchange_whole s c
    exact ⟨((SessionLog.weaves_inTurn traces).settles whole).openAfter,
      fun log weaves => (weaves.settles whole).openAfter⟩

/-- Four requests to one service: a failure at the fourth statement, no database, the index over a
database that refuses everything, and a method that is not served. -/
theorem sessions_balanced_mixed :
    let s := Service.ofSettings (.naming "Wisdom" "wisdom.V1")
    let disk : Failure := .fault .operational (some "disk")
    let statements := Statements.onTables Tables.labelled 0 []
    let ask (database : Option Statements) (method path : String) : Call :=
      ⟨database, Assembly.Draw.pick 0,
        ⟨method, path, "", none, "http", some ⟨"127.0.0.1", 8000⟩, none⟩⟩
    let broken := ask (some (statements.failingAt 3 disk)) "GET" "/v1/author/ada"
    let unconnected := ask none "GET" "/v1/tags"
    let index := ask (some (statements.failingAt 0 disk)) "GET" "/"
    let posted := ask (some statements) "POST" "/v1/tags"
    let traces := [broken, unconnected, index, posted].map fun c => (s.exchange c).events
    s.Sendable ∧ s.Wants broken.request (.quotesByAuthor "ada") ∧ broken.request.Received ∧
      (∃ qs, qs.length = 4 ∧ (s.exchange broken).events = SessionEvent.life qs) ∧
      s.Wants unconnected.request .tags ∧ (s.exchange unconnected).events = [] ∧
      (∃ sent, (s.exchange unconnected).response = some sent ∧ sent.status = 500) ∧
      (s.exchange index).events = [] ∧ (s.exchange posted).events = [] ∧
      (SessionLog.inTurn 0 traces).openAfter ∅ = some ∅ := by
  intro s disk statements ask broken unconnected index posted traces
  have sendable : s.Sendable := ⟨by decide, by decide⟩
  have wants : s.Wants broken.request (.quotesByAuthor "ada") := ⟨by decide, rfl, by decide⟩
  have tags : s.Wants unconnected.request .tags := ⟨by decide, rfl, by decide⟩
  have host : Authority.IsHost "127.0.0.1".toList := .name (by decide) (List.all_eq_true.1 (by decide))
  have received : broken.request.Received := ⟨by decide, ⟨"127.0.0.1", 8000⟩, rfl, host⟩
  obtain ⟨data, other, calls⟩ := sessions_balanced (.naming "Wisdom" "wisdom.V1")
  obtain ⟨plan, planned, events⟩ := (data broken _ wants received).1 _ rfl
  obtain ⟨none, answers, -⟩ :=
    (data unconnected _ tags ⟨by decide, ⟨"127.0.0.1", 8000⟩, rfl, host⟩).2 rfl
  obtain ⟨sent, response, status, -⟩ := answers sendable
  have executed : (plan.run (Store.repository (statements.failingAt 3 disk))).lookups.length = 4 := by
    cases planned
    cbv
  exact ⟨sendable, wants, received, ⟨_, executed, events⟩, tags, none, ⟨sent, response, status⟩,
    other index (.inr (by decide)), other posted (.inl (by decide)),
    (calls [broken, unconnected, index, posted]).1⟩

/-- A service that was accepted, and has no database, answers a request for its tags with nothing: not
with the generic error. -/
theorem exchange_unconnected_checkMark :
    let settings : Settings := .naming "Wisdom ✓" "wisdom.V1"
    let s := Service.ofSettings settings
    let r : Request := ⟨"GET", "/v1/tags", "", some "test", "http", some ⟨"test", 80⟩, none⟩
    let c : Call := ⟨none, Assembly.Draw.pick 0, r⟩
    (∃ sources, Settings.check sources = .ok settings) ∧ s.Wants r .tags ∧ r.Received ∧
      (s.exchange c).events = [] ∧ (s.exchange c).response = none := by
  intro settings s r c
  have wants : s.Wants c.request .tags := ⟨by decide, rfl, by decide⟩
  have received : r.Received :=
    ⟨by decide, ⟨"test", 80⟩, rfl, .name (by decide) (List.all_eq_true.1 (by decide))⟩
  have unsendable : ¬ s.Sendable := fun h => absurd h.serverName (by decide)
  obtain ⟨url, address⟩ := r.address_received received
  refine ⟨⟨.naming "Wisdom ✓" "wisdom.V1", Settings.check_naming _ _⟩, wants, received, ?_, ?_⟩
  · rw [exchange, events_serve address, handle_unconnected wants rfl]
  · exact (serve_unsendable unsendable c.database c.draw address).1

end Service
end QuoteService.Http
