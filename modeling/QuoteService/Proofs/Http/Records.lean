import Mathlib
import QuoteService.Log.Root
import QuoteService.Proofs.Http.Envelope
import QuoteService.Proofs.Log.Record

/-! What a request leaves in the log. Records are written by the answers to failures, by the access log
around them, and by the last resort around both; a request takes one of three ways through these. -/
namespace QuoteService.Http

namespace Request

section Stories

variable (r : Request) (a : Address)

/-- A request that was answered: who asked for what, and the status. -/
def Accessed (status : Int) (records : List Log.Record) : Prop :=
  ∃ access, records = [access] ∧
    access.Shows .info "wisdom.api.middleware" (r.remote ++ " " ++ r.method ++ " " ++ a.url)
      (r.fields a ++ [("status_code", .integer status)])

/-- A failure with an answer of its own: what failed where, then the access. -/
def Reported (status : Int) (tag reason : String) (cause : Json) (records : List Log.Record) : Prop :=
  ∃ report access, records = report :: access ∧
    report.Shows (if status = 500 then .error else .warning) "wisdom.api.error_handlers"
      (r.remote ++ " " ++ r.method ++ " " ++ a.url ++ " [" ++ tag ++ "] " ++ reason)
      (r.fields a ++ [("status_code", .integer status), ("error_tag", .string tag),
        ("error_cause", cause)]) ∧
    r.Accessed a status access

/-- A failure that nobody expected: the request that it ended, then the failure itself. There is no
access. -/
def Abandoned (f : Failure) (records : List Log.Record) : Prop :=
  ∃ ended failed, records = [ended, failed] ∧
    ended.Shows .error "wisdom.api.middleware"
      (r.remote ++ " " ++ r.method ++ " " ++ a.url ++ " - unhandled") (r.fields a) ∧
    failed.Shows .error "wisdom.api.error_handlers"
      ("Unhandled exception on " ++ a.path ++ ": " ++ f.text)
      (r.fields a ++ [("error_tag", .string "unhandled"), ("error_cause", .string f.diagnostic)]) ∧
    failed.failure = some f

variable {r a}

theorem accessed_accessRecord (status : Int) : r.Accessed a status [r.accessRecord a status] :=
  ⟨_, rfl, rfl, rfl, rfl, rfl⟩

theorem reported_errorRecord {e : ServiceError Failure}
    (level : Log.Level.ofSeverity e.severity = if e.status = 500 then .error else .warning) :
    r.Reported a e.status e.tag ((e.cause.map Failure.text).getD e.message)
      ((e.cause.map Failure.diagnostic).elim .null .string)
      [r.errorRecord a e, r.accessRecord a e.status] :=
  ⟨_, _, rfl, ⟨level, rfl, rfl, rfl⟩, accessed_accessRecord e.status⟩

theorem abandoned_failureRecord (f : Failure) :
    r.Abandoned a f [r.unansweredRecord a, r.failureRecord a f] :=
  ⟨_, _, rfl, ⟨rfl, rfl, rfl, rfl⟩, ⟨rfl, rfl, rfl, rfl⟩, rfl⟩

section Passing

variable {root : Log.Root} (low : root.level ≤ Log.Level.info.number) {records : List Log.Record}

include low

theorem Accessed.passing {status : Int} (h : r.Accessed a status records) :
    r.Accessed a status (records.filter root.passes) := by
  obtain ⟨access, rfl, shown⟩ := h
  rw [List.filter_cons_of_pos (shown.passes (by decide) low)]
  exact ⟨access, rfl, shown⟩

theorem Reported.passing {status : Int} {tag reason : String} {cause : Json}
    (h : r.Reported a status tag reason cause records) :
    r.Reported a status tag reason cause (records.filter root.passes) := by
  obtain ⟨report, access, rfl, shown, accessed⟩ := h
  have loud : Log.Level.info.number ≤
      (if status = 500 then Log.Level.error else .warning).number := by split <;> decide
  have set : 0 < (if status = 500 then Log.Level.error else .warning).number := by
    split <;> decide
  rw [List.filter_cons_of_pos (shown.passes set (low.trans loud))]
  exact ⟨report, _, rfl, shown, accessed.passing low⟩

theorem Abandoned.passing {f : Failure} (h : r.Abandoned a f records) :
    r.Abandoned a f (records.filter root.passes) := by
  obtain ⟨ended, failed, rfl, first, second, attached⟩ := h
  have loud : root.level ≤ Log.Level.error.number := low.trans (by decide)
  rw [List.filter_cons_of_pos (first.passes (by decide) loud),
    List.filter_cons_of_pos (second.passes (by decide) loud)]
  exact ⟨ended, failed, rfl, first, second, attached⟩

end Passing

end Stories

end Request

namespace Service

variable {s : Service} {database : Option Statements} {draw : Assembly.Draw} {r : Request}
  {a : Address}

theorem log_of_ok (sendable : s.Sendable) (address : r.address = .ok a) {response : Response}
    (handled : (s.handle database draw r).outcome = .ok response) :
    ∃ sent, (s.serve database draw r).response = some sent ∧ sent.status = response.status ∧
      r.Accessed a sent.status (s.serve database draw r).records := by
  rw [serve_eq_of_ok sendable address handled]
  exact ⟨_, rfl, rfl, Request.accessed_accessRecord response.status⟩

theorem log_of_answered (sendable : s.Sendable) (address : r.address = .ok a) {f : Failure}
    (handled : (s.handle database draw r).outcome = .error f) (answerable : Answerable f)
    {e : ServiceError Failure} {own : List (String × String)} (answer : answered? f = some (e, own))
    (level : Log.Level.ofSeverity e.severity = if e.status = 500 then .error else .warning) :
    ∃ sent, (s.serve database draw r).response = some sent ∧ sent.status = e.status ∧
      r.Reported a e.status e.tag ((e.cause.map Failure.text).getD e.message)
        ((e.cause.map Failure.diagnostic).elim .null .string) (s.serve database draw r).records := by
  obtain ⟨response, status, -, -, served⟩ :=
    serve_eq_of_answered handled sendable address answerable answer
  rw [served, status]
  exact ⟨_, rfl, rfl, Request.reported_errorRecord level⟩

theorem log_of_unanswered (sendable : s.Sendable) (address : r.address = .ok a) {f : Failure}
    (handled : (s.handle database draw r).outcome = .error f) (answer : answered? f = none) :
    (s.serve database draw r).response = some s.lastResponse ∧
      (s.serve database draw r).raised = some f ∧
      r.Abandoned a f (s.serve database draw r).records := by
  rw [serve_eq_of_unanswered handled address answer, lastResort_eq sendable]
  exact ⟨rfl, rfl, Request.abandoned_failureRecord f⟩

/-- A handler gives a value or a redirection, or fails in one of the expected ways. -/
theorem holds_handleRoute (s : Service) {database : Option Statements}
    (plain : ∀ statements, database = some statements → statements.FailPlainly)
    (draw : Assembly.Draw) (query : String) (route : Route) :
    Holds (fun response => response.status = 200 ∨ response.status = 302) Failure.IsExpected
      (s.handleRoute database draw query route).outcome := by
  unfold handleRoute
  split
  · exact .inr rfl
  · rename_i plan planned
    cases database with
    | none => exact .plain trivial
    | some statements =>
      have kind := holds_inSession (plain _ rfl) query (Route.ends_plan? planned)
      dsimp only
      cases result : (inSession statements query plan).outcome with
      | error f =>
        rw [result] at kind
        exact kind
      | ok response =>
        rw [result] at kind
        obtain ⟨v, -, status, -⟩ := kind
        exact .inl status

/-- What a service logs while it serves a request, by how the request ends. -/
theorem serve_records (s : Service) (sendable : s.Sendable) (database : Option Statements)
    (plain : ∀ statements, database = some statements → statements.FailPlainly)
    (draw : Assembly.Draw) (r : Request) (wellFormed : r.WellFormed) (root : Log.Root)
    (low : root.level ≤ Log.Level.info.number) :
    ∃ a sent, r.address = .ok a ∧ (s.serve database draw r).response = some sent ∧
      let records := (s.serve database draw r).records.filter root.passes
      match Route.ofPath? s.templates r.path with
      | none =>
        sent.status = 404 ∧ r.Reported a 404 "notFoundHandler" "Not Found" .null records
      | some route =>
        if r.method = "GET" then
          match (s.handleRoute database draw r.query route).outcome with
          | .ok _ => (sent.status = 200 ∨ sent.status = 302) ∧ r.Accessed a sent.status records
          | .error (.service e) =>
            (e.kind = .notFound ∧ sent.status = 404 ∧ e.cause = none ∨
              e.kind = .internalFailure ∧ sent.status = 500 ∧ e.cause.isSome) ∧
            r.Reported a sent.status e.tag ((e.cause.map Failure.text).getD e.message)
              ((e.cause.map Failure.diagnostic).elim .null .string) records
          | .error f =>
            sent.status = 500 ∧ (s.serve database draw r).raised = some f ∧
              r.Abandoned a f records
        else
          sent.status = 405 ∧
            r.Reported a 405 "methodNotAllowedHandler" "Method Not Allowed" .null records := by
  obtain ⟨url, address⟩ := r.address_ok wellFormed
  cases found : Route.ofPath? s.templates r.path with
  | none =>
    have handled : (s.handle database draw r).outcome = .error (.http 404 "Not Found" none) := by
      rw [handle, found]
    obtain ⟨sent, response, status, told⟩ :=
      log_of_answered sendable address handled answerable_noRoute rfl rfl
    exact ⟨_, sent, address, response, status, told.passing low⟩
  | some route =>
    by_cases get : r.method = "GET"
    · simp only [if_pos get]
      have handed : s.handle database draw r = s.handleRoute database draw r.query route := by
        rw [handle, found]
        exact if_pos get
      have kind := holds_handleRoute s plain draw r.query route
      rw [← handed] at kind ⊢
      cases handled : (s.handle database draw r).outcome with
      | ok response =>
        rw [handled] at kind
        obtain ⟨sent, answer, status, told⟩ := log_of_ok sendable address handled
        exact ⟨_, sent, address, answer, status ▸ kind, told.passing low⟩
      | error f =>
        rw [handled] at kind
        cases kind with
        | absent resource tag =>
          obtain ⟨sent, answer, status, told⟩ := log_of_answered sendable address handled
            (answerable_of_isExpected (.absent resource tag)) rfl rfl
          rw [← status] at told
          exact ⟨_, sent, address, answer, .inl ⟨rfl, status, rfl⟩, told.passing low⟩
        | refused tag cause category =>
          obtain ⟨sent, answer, status, told⟩ := log_of_answered sendable address handled
            (answerable_of_isExpected (.refused tag cause category)) rfl rfl
          rw [← status] at told
          exact ⟨_, sent, address, answer, .inr ⟨rfl, status, rfl⟩, told.passing low⟩
        | plain h =>
          cases f with
          | service | http => exact h.elim
          | reported | invalid | unencodable | undecodable =>
            obtain ⟨answer, raised, told⟩ := log_of_unanswered sendable address handled rfl
            exact ⟨_, _, address, answer, rfl, raised, told.passing low⟩
    · simp only [if_neg get]
      have handled : (s.handle database draw r).outcome =
          .error (.http 405 "Method Not Allowed" (some [("Allow", "GET")])) := by
        rw [handle, found]
        simp only [if_neg get]
      obtain ⟨sent, response, status, told⟩ :=
        log_of_answered sendable address handled answerable_wrongMethod rfl rfl
      exact ⟨_, sent, address, response, status, told.passing low⟩

/-- The third of the statements fails: the links of the only quote. -/
theorem serve_records_interrupted :
    let s : Service := ⟨"Wisdom", "application/vnd.wisdom.v1+json", "/docs", Route.Template.all⟩
    let tables : Tables := ⟨[⟨1, none, "Ada", none, some "ada"⟩], [], [⟨5, 1, "p", "q", "", ""⟩], []⟩
    let statements := (Statements.onTables tables 0 []).failingAt 2
      (.fault .operational (some "disk I/O error"))
    let r : Request := ⟨"GET", "/v1/author/ada", "callback=f", some "a b", "http",
      some ⟨"::1", 8000⟩, none⟩
    let root : Log.Root := ⟨[], 10, none, 0⟩
    s.Sendable ∧ statements.FailPlainly ∧ r.WellFormed ∧ root.level ≤ Log.Level.info.number ∧
      ∃ a sent, r.address = .ok a ∧
        (s.serve (some statements) (Assembly.Draw.pick 0) r).response = some sent ∧
        sent.status = 500 ∧
        r.Reported a 500 "SqlQuoteStore.fetch_tag_ids_by_quote_id" "disk I/O error"
          (.string "OperationalError('disk I/O error')")
          ((s.serve (some statements) (Assembly.Draw.pick 0) r).records.filter root.passes) := by
  intro s tables statements r root
  have sendable : s.Sendable := ⟨by decide, by decide⟩
  have plain : statements.FailPlainly :=
    failPlainly_failingAt (failPlainly_onTables tables 0 (by simp)) 2 trivial
  have wellFormed : r.WellFormed :=
    ⟨by decide, by decide, ⟨"::1", 8000⟩, rfl, .literal (by decide)⟩
  have low : root.level ≤ Log.Level.info.number := by decide
  refine ⟨sendable, plain, wellFormed, low, ?_⟩
  obtain ⟨a, sent, address, answer, told⟩ := serve_records s sendable (some statements)
    (by rintro _ ⟨⟩; exact plain) (Assembly.Draw.pick 0) r wellFormed root low
  have found : Route.ofPath? s.templates r.path = some (.quotesByAuthor "ada") := by decide
  have failing (text diagnostic : String) :
      let f : Failure := .reported .operational text diagnostic
      (s.handleRoute (some ((Statements.onTables tables 0 []).failingAt 2 f)) (Assembly.Draw.pick 0)
        r.query (.quotesByAuthor "ada")).outcome = .error (.service (.internalFailure
          "SqlQuoteStore.fetch_tag_ids_by_quote_id" (some f) .database)) := by cbv
  have failed : (s.handleRoute (some statements) (Assembly.Draw.pick 0) r.query
      (.quotesByAuthor "ada")).outcome = .error (.service (.internalFailure
        "SqlQuoteStore.fetch_tag_ids_by_quote_id" (some (.fault .operational (some "disk I/O error")))
        .database)) := failing _ _
  have get : r.method = "GET" := rfl
  simp only [found, if_pos get, failed] at told
  obtain ⟨⟨⟨⟩, -⟩ | ⟨-, status, -⟩, told⟩ := told
  rw [status] at told
  have cause : Failure.diagnostic (.fault .operational (some "disk I/O error")) =
    "OperationalError('disk I/O error')" := by decide +kernel
  exact ⟨a, sent, address, answer, status, cause ▸ told⟩

end Service
end QuoteService.Http
