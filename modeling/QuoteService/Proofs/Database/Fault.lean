import Mathlib
import QuoteService.Proofs.Http.Envelope
import QuoteService.Proofs.Plan.Interruption

/-! A statement that fails. It ends the operation that executed it, however far that has come: nothing
is executed after it, nothing is retried, and no part of the answer is given. -/
namespace QuoteService

theorem cutAt_failingAt (statements : Statements) (position : Nat) (failure : Failure) :
    (Store.repository statements).CutAt (Store.repository (statements.failingAt position failure))
      position fun q => Store.reported q failure where
  before n early := by
    funext q
    simp [Store.repository, Statements.failingAt, Nat.ne_of_lt early]
  fails q := by
    simp [Store.repository, Statements.failingAt, Except.mapError]

namespace Http

/-- The statements that an exchange executed, in order. -/
def Exchange.statements (e : Exchange) : List Lookup :=
  e.events.filterMap fun
    | .executed q => some q
    | _ => none

namespace Service

variable {s : Service} {draw : Assembly.Draw} {r : Request} {a : Address}

theorem events_lastResort (records : List Log.Record) (events : List SessionEvent) (f : Failure) :
    (s.lastResort r a records events f).events = events := by
  unfold lastResort
  split <;> rfl

/-- What happened to the session is up to the handler. -/
theorem events_serve {database : Option Statements} (address : r.address = .ok a) :
    (s.serve database draw r).events = (s.handle database draw r).events := by
  rw [serve, address]
  dsimp only
  split
  · exact events_lastResort _ _ _
  · split
    · exact events_lastResort _ _ _
    · rfl

/-- A service does not see the database but through its handlers. -/
theorem serve_congr {database other : Option Statements}
    (same : s.handle database draw r = s.handle other draw r) :
    s.serve database draw r = s.serve other draw r := by
  unfold serve
  rw [same]

theorem statements_serve {database : Option Statements} (address : r.address = .ok a)
    {statements : Statements} {plan : Plan Payload}
    (handled : s.handle database draw r = inSession statements r.query plan) :
    (s.serve database draw r).statements = (plan.run (Store.repository statements)).lookups := by
  rw [Exchange.statements, events_serve address, handled, inSession, Session.events_bracket, execute]
  simp only [List.cons_append, List.filterMap_cons, List.filterMap_append, List.filterMap_map,
    List.filterMap_nil, List.append_nil]
  exact List.filterMap_some

/-- A request that needs data runs one plan in a session; the others do not see the database. -/
theorem handle_cases (s : Service) (draw : Assembly.Draw) (r : Request) :
    (∃ plan, ∀ statements, s.handle (some statements) draw r = inSession statements r.query plan) ∨
      ∃ handled, handled.events = [] ∧
        ∀ statements, s.handle (some statements) draw r = handled := by
  unfold handle
  split
  · exact .inr ⟨_, rfl, fun _ => rfl⟩
  split
  swap
  · exact .inr ⟨_, rfl, fun _ => rfl⟩
  unfold handleRoute
  split
  · exact .inr ⟨_, rfl, fun _ => rfl⟩
  · rename_i plan _
    exact .inl ⟨plan, fun _ => rfl⟩

section Reports

variable {e : Failure}

theorem answerBody_reported (storage : e.isStorage) (q : Lookup) :
    answerBody (Store.reported q e) = ⟨ServiceError.genericMessage, 500⟩ := by
  rw [Store.reported, if_pos storage]
  rfl

theorem answerable_reported (storage : e.isStorage) (q : Lookup) :
    Answerable (Store.reported q e) := by
  rw [Store.reported, if_pos storage]
  exact answerable_of_isExpected (.refused _ _ _)

end Reports

/-- A failed statement ends the exchange that executed it; one of the database is answered as an
internal failure. -/
theorem serve_failingAt (sendable : s.Sendable) (wellFormed : r.WellFormed)
    (statements : Statements) (position : Nat) (e : Failure) :
    let clean := s.serve (some statements) draw r
    let faulty := s.serve (some (statements.failingAt position e)) draw r
    (clean.statements.length ≤ position → faulty = clean) ∧
      (position < clean.statements.length →
        faulty.statements = clean.statements.take (position + 1) ∧
          (e.isStorage → faulty.Answers s 500
            ((ErrorBody.mk ServiceError.genericMessage 500).toJson.render .compact))) := by
  intro clean faulty
  obtain ⟨url, address⟩ := r.address_ok wellFormed
  obtain ⟨plan, handled⟩ | ⟨nothing, idle, handled⟩ := handle_cases s draw r
  · have cut := cutAt_failingAt statements position e
    have executed : clean.statements = (plan.run (Store.repository statements)).lookups :=
      statements_serve address (handled statements)
    have begun : faulty.statements =
        (plan.run (Store.repository (statements.failingAt position e))).lookups :=
      statements_serve address (handled _)
    rw [executed, begun]
    constructor
    · intro ended
      refine serve_congr ?_
      rw [handled, handled, inSession, execute, Plan.run_cut_beyond plan cut ended]
      rfl
    · intro reached
      have run := Plan.run_cut_within plan cut reached
      refine ⟨by rw [run], fun storage => ?_⟩
      have failed : (s.handle (some (statements.failingAt position e)) draw r).outcome =
          .error (Store.reported (plan.run (Store.repository statements)).lookups[position] e) := by
        rw [handled, inSession, Session.outcome_bracket, execute, run]
        rfl
      have answer := serve_of_error sendable address failed (answerable_reported storage _)
      rwa [answerBody_reported storage] at answer
  · have none : clean.statements = [] := by
      simp only [clean, Exchange.statements, events_serve address, handled, idle]
      rfl
    rw [none]
    constructor
    · intro _
      refine serve_congr ?_
      rw [handled, handled]
    · intro reached
      exact absurd reached (Nat.not_lt_zero _)

end Service
end Http

open Http in
/-- If the statement in a position fails, an operation that does not come to it is as before, and one
that does has executed the same statements up to it and no more, and ends with the failure: one of the
database is reported as an internal failure under the name of the accessor, others stay what they are.
Over a connection, the former is always answered by the generic error and never by a part of a list. -/
theorem fault_aborts (statements : Statements) (position : Nat) (e : Failure) :
    (∀ {α : Type} (op : Assembly.Operation α),
      let clean := op.plan.run (Store.repository statements)
      let faulty := op.plan.run (Store.repository (statements.failingAt position e))
      (clean.lookups.length ≤ position → faulty = clean) ∧
        ∀ reached : position < clean.lookups.length,
          faulty.lookups = clean.lookups.take (position + 1) ∧
            faulty.outcome = .error (if e.isStorage then
              .service (.internalFailure ("SqlQuoteStore." ++ clean.lookups[position].name)
                (some e) .database)
              else e)) ∧
    ∀ (s : Service) (draw : Assembly.Draw) (r : Request), s.Sendable → r.WellFormed →
      let clean := s.serve (some statements) draw r
      let faulty := s.serve (some (statements.failingAt position e)) draw r
      (clean.statements.length ≤ position → faulty = clean) ∧
        (position < clean.statements.length →
          faulty.statements = clean.statements.take (position + 1) ∧
            (e.isStorage → ∃ sent, faulty.response = some sent ∧ sent.status = 500 ∧
              sent.body = (Json.object [("error", .string ServiceError.genericMessage),
                ("code", .integer 500)]).render .compact)) := by
  constructor
  · intro α op clean faulty
    have cut := cutAt_failingAt statements position e
    refine ⟨Plan.run_cut_beyond op.plan cut, fun reached => ?_⟩
    have run := Plan.run_cut_within op.plan cut reached
    exact ⟨congrArg Run.lookups run, congrArg Run.outcome run⟩
  · intro s draw r sendable wellFormed clean faulty
    obtain ⟨beyond, within⟩ := Service.serve_failingAt sendable wellFormed statements position e
    refine ⟨beyond, fun reached => ?_⟩
    obtain ⟨executed, answers⟩ := within reached
    refine ⟨executed, fun storage => ?_⟩
    obtain ⟨sent, response, status, body, -⟩ := answers storage
    exact ⟨sent, response, status, body⟩

/-- A quote with two tags. -/
def Tables.labelled : Tables where
  authors := [⟨1, none, "Ada", none, some "ada"⟩]
  tags := [⟨8, "late"⟩, ⟨7, "early"⟩]
  quotes := [⟨5, 1, "p", "q", "", ""⟩]
  links := [⟨5, 8⟩, ⟨5, 7⟩]

section
open Http

/-- A request for the quotes of its author. -/
def Tables.labelledRequest : Request :=
  ⟨"GET", "/v1/author/ada", "", none, "http", some ⟨"127.0.0.1", 8000⟩, none⟩

/-- It comes as far as the first tag. -/
theorem Tables.served_labelled {s : Service} (standard : s.templates = Route.Template.all) :
    3 < (s.serve (some (Statements.onTables labelled 0 [])) (Assembly.Draw.pick 0)
      labelledRequest).statements.length := by
  have received : labelledRequest.Received :=
    ⟨by decide, ⟨"127.0.0.1", 8000⟩, rfl, .name (by decide) (List.all_eq_true.1 (by decide))⟩
  obtain ⟨url, address⟩ := labelledRequest.address_received received
  have route : Route.ofPath? s.templates labelledRequest.path = some (.quotesByAuthor "ada") := by
    rw [standard]
    decide
  have handled : s.handle (some (Statements.onTables labelled 0 [])) (Assembly.Draw.pick 0)
      labelledRequest = Service.inSession (Statements.onTables labelled 0 []) "" (do
        return .list ((← Assembly.quotesByAuthor (.string "ada")).map .ofQuote)) := by
    simp only [Service.handle, route]
    rfl
  rw [Service.statements_serve address handled]
  cbv

end

open Http in
/-- The lookup of its first tag fails; that of the second is never made. -/
theorem fault_aborts_labelled :
    let statements := Statements.onTables Tables.labelled 0 []
    let e : Failure := .fault .operational (some "disk I/O error")
    let op := Assembly.Operation.quotesByAuthor (.string "ada")
    let clean := op.plan.run (Store.repository statements)
    let faulty := op.plan.run (Store.repository (statements.failingAt 3 e))
    let s : Service := ⟨"Wisdom", "application/vnd.wisdom.v1+json", "/docs", Route.Template.all⟩
    let r : Request := ⟨"GET", "/v1/author/ada", "", none, "http", some ⟨"127.0.0.1", 8000⟩, none⟩
    let answered := s.serve (some (statements.failingAt 3 e)) (Assembly.Draw.pick 0) r
    3 < clean.lookups.length ∧ s.Sendable ∧ r.WellFormed ∧
      3 < (s.serve (some statements) (Assembly.Draw.pick 0) r).statements.length ∧ e.isStorage ∧
      faulty.lookups = clean.lookups.take 4 ∧
      ∃ sent, answered.response = some sent ∧ sent.status = 500 := by
  intro statements e op clean faulty s r answered
  have sendable : s.Sendable := ⟨by decide, by decide⟩
  have wellFormed : r.WellFormed :=
    ⟨by decide, by decide, ⟨"127.0.0.1", 8000⟩, rfl,
      .name (by decide) (List.all_eq_true.1 (by decide))⟩
  have reached : 3 < clean.lookups.length := by cbv
  have served : 3 < (s.serve (some statements) (Assembly.Draw.pick 0) r).statements.length :=
    Tables.served_labelled rfl
  obtain ⟨operations, exchanges⟩ := fault_aborts statements 3 e
  obtain ⟨executed, -⟩ := (operations op).2 reached
  obtain ⟨-, answer⟩ := (exchanges s (Assembly.Draw.pick 0) r sendable wellFormed).2 served
  obtain ⟨sent, response, status, -⟩ := answer rfl
  exact ⟨reached, sendable, wellFormed, served, rfl, executed, sent, response, status⟩

end QuoteService
