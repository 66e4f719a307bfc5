import QuoteService.Proofs.Http.Address
import QuoteService.Proofs.Http.Rendering

/-! Every request gets one response, in one envelope. Responses leave by three ways: from a handler,
as the answer to a failure that has one, and by the last resort; each sets the same fields. -/
namespace QuoteService.Http

/-- An exchange that sent a response in the envelope of its service. -/
def Exchange.Answers (s : Service) (e : Exchange) (status : Int) (body : String) : Prop :=
  ∃ sent, e.response = some sent ∧ sent.status = status ∧ sent.body = body ∧ sent.IsEnveloped s

/-- The public part of the answer to a failure. -/
def answerBody (f : Failure) : ErrorBody :=
  match answered? f with
  | some (e, _) => e.body
  | none => (Request.unhandled f).body

/-- A failure whose own answer, if it has one, can be sent. -/
def Answerable (f : Failure) : Prop :=
  ∀ e own, answered? f = some (e, own) → Response.isBodiless e.status = false ∧
    Json.IsShort e.status ∧ ∃ fields, own.mapM (fun h => Header.ofPair h.1 h.2) = .ok fields ∧
      Header.hasName "content-length" fields = false

theorem answerable_of_isExpected {f : Failure} (h : f.IsExpected) : Answerable f := by
  have missing : Json.IsShort 404 := by decide
  have internal : Json.IsShort 500 := by decide
  intro e own answer
  cases h with
  | absent =>
    cases answer
    exact ⟨rfl, missing, [], rfl, rfl⟩
  | refused =>
    cases answer
    exact ⟨rfl, internal, [], rfl, rfl⟩
  | plain h => cases f <;> first | exact h.elim | cases answer

theorem answerable_noRoute : Answerable (.http 404 "Not Found" none) := by
  rintro e own ⟨⟩
  exact ⟨by decide, by decide, [], rfl, rfl⟩

theorem answerable_wrongMethod :
    Answerable (.http 405 "Method Not Allowed" (some [("Allow", "GET")])) := by
  rintro e own ⟨⟩
  exact ⟨by decide, by decide, [("allow", "GET")], rfl, rfl⟩

namespace Service

variable {s : Service} {database : Option Statements} {draw : Assembly.Draw} {r : Request}
  {a : Address}

/-- What the last resort answers. -/
def lastResponse (s : Service) : Response :=
  let body := (ErrorBody.mk ServiceError.genericMessage 500).toJson.render .compact
  ⟨500, [("server", s.serverName), ("x-wisdom-media-type", s.mediaType),
    ("content-type", jsonContentType), ("content-length", Number.integerText body.utf8ByteSize)],
    body⟩

/-- The words and the status of an unexpected failure can always be written. -/
theorem ofError_unhandled (f : Failure) (own : List (String × String)) :
    Response.ofError (Request.unhandled f) own = Response.make 500 own (some jsonContentType)
      ((ErrorBody.mk ServiceError.genericMessage 500).toJson.render .compact) := by
  have short : Json.IsShort 500 := by decide
  exact Response.ofError_eq (e := Request.unhandled f) short own

theorem make_lastResponse (sendable : s.Sendable) :
    Response.make 500 s.fixed (some jsonContentType)
      ((ErrorBody.mk ServiceError.genericMessage 500).toJson.render .compact) =
        .ok s.lastResponse := by
  have bodied : Response.isBodiless 500 = false := by decide
  exact Response.make_eq bodied sendable.mapM_fixed (by rfl) jsonContentType _

/-- The last resort answers every failure alike, and passes it on. -/
theorem lastResort_eq (sendable : s.Sendable) (records : List Log.Record)
    (events : List SessionEvent) (f : Failure) :
    s.lastResort r a records events f =
      ⟨some s.lastResponse, records ++ [r.failureRecord a f], some f, events⟩ := by
  unfold lastResort
  rw [ofError_unhandled, make_lastResponse sendable]

theorem response_lastResort (sendable : s.Sendable) (records : List Log.Record)
    (events : List SessionEvent) (f : Failure) :
    (s.lastResort r a records events f).response = some s.lastResponse := by
  rw [lastResort_eq sendable]

theorem lastResort_answers (sendable : s.Sendable) (records : List Log.Record)
    (events : List SessionEvent) (f : Failure) :
    (s.lastResort r a records events f).Answers s 500
      ((ErrorBody.mk ServiceError.genericMessage 500).toJson.render .compact) := by
  refine ⟨s.lastResponse, response_lastResort sendable records events f, rfl, rfl, ?_, ?_, ?_, ?_⟩
  · simp [lastResponse, Header.values]
  · simp [lastResponse, Header.values]
  · simp [lastResponse, Header.values]
  · simp [lastResponse, Response.IsMeasured, Header.values]

section Ways

/-- A response of the handler is sent under the fixed fields. -/
theorem serve_eq_of_ok (sendable : s.Sendable) (address : r.address = .ok a) {response : Response}
    (handled : (s.handle database draw r).outcome = .ok response) :
    s.serve database draw r =
      ⟨some { response with headers := Response.stamped s response.headers },
        [r.accessRecord a response.status], none, (s.handle database draw r).events⟩ := by
  rw [serve, address]
  simp only [handled, Response.stamp_eq sendable]
  rfl

variable {f : Failure} (handled : (s.handle database draw r).outcome = .error f)

include handled

/-- So is the answer to a failure that has one. -/
theorem serve_eq_of_answered (sendable : s.Sendable) (address : r.address = .ok a)
    (answerable : Answerable f) {e : ServiceError Failure} {own : List (String × String)}
    (answer : answered? f = some (e, own)) :
    ∃ response : Response, response.status = e.status ∧
      response.body = e.body.toJson.render .compact ∧ response.IsMeasured ∧
      s.serve database draw r =
        ⟨some { response with headers := Response.stamped s response.headers },
          [r.errorRecord a e, r.accessRecord a response.status], none,
          (s.handle database draw r).events⟩ := by
  obtain ⟨bodied, short, fields, written, silent⟩ := answerable e own answer
  obtain ⟨response, made, status, body, measured⟩ := Response.make_ok bodied written silent
    jsonContentType (e.body.toJson.render .compact)
  have answered : Response.ofError e own = .ok response := (Response.ofError_eq short own).trans made
  refine ⟨response, status, body, measured, ?_⟩
  rw [serve, address]
  simp only [handled, recover, answer, answered, Response.stamp_eq sendable]
  rfl

/-- All other failures come to the last resort. -/
theorem serve_eq_of_unanswered (address : r.address = .ok a) (answer : answered? f = none) :
    s.serve database draw r =
      s.lastResort r a [r.unansweredRecord a] (s.handle database draw r).events f := by
  rw [serve, address]
  simp only [handled, recover, answer]

end Ways

theorem serve_of_ok (sendable : s.Sendable) (address : r.address = .ok a) {response : Response}
    (handled : (s.handle database draw r).outcome = .ok response)
    (measured : response.IsMeasured) :
    (s.serve database draw r).Answers s response.status response.body := by
  rw [serve_eq_of_ok sendable address handled]
  exact ⟨_, rfl, rfl, rfl, Response.isEnveloped_stamped measured⟩

theorem serve_of_error (sendable : s.Sendable) (address : r.address = .ok a) {f : Failure}
    (handled : (s.handle database draw r).outcome = .error f) (answerable : Answerable f) :
    (s.serve database draw r).Answers s (answerBody f).code
      ((answerBody f).toJson.render .compact) := by
  unfold answerBody
  cases answer : answered? f with
  | none =>
    rw [serve_eq_of_unanswered handled address answer]
    exact lastResort_answers sendable _ _ f
  | some found =>
    obtain ⟨response, status, body, measured, served⟩ :=
      serve_eq_of_answered handled sendable address answerable answer
    rw [served]
    exact ⟨_, rfl, status, body, Response.isEnveloped_stamped measured⟩

/-- What handlers give: a redirection, a value in JSON, or a failure that can be answered. -/
inductive Outcome (query : String) : Except Failure Response → Prop
  | moved {response : Response} (status : response.status = 302) (measured : response.IsMeasured) :
    Outcome query (.ok response)
  | value {response : Response} (v : Json) (whole : v.isWhole) (status : response.status = 200)
    (body : response.body = Payload.wrapped (callback? query) (v.render .compact))
    (measured : response.IsMeasured) : Outcome query (.ok response)
  | failed {f : Failure} (answerable : Answerable f)
    (code : (answerBody f).code = 404 ∨ (answerBody f).code = 405 ∨ (answerBody f).code = 500) :
    Outcome query (.error f)

theorem outcome_of_isExpected {f : Failure} (h : f.IsExpected) (query : String) :
    Outcome query (.error f) := by
  refine .failed (answerable_of_isExpected h) ?_
  cases h with
  | absent => exact .inl rfl
  | refused => exact .inr (.inr rfl)
  | plain h => cases f <;> first | exact h.elim | exact .inr (.inr rfl)

/-- A plan in a session ends with a rendered value, or with a failure of the kinds it can have. -/
theorem holds_inSession {statements : Statements} (plain : statements.FailPlainly)
    (query : String) {plan : Plan Payload}
    (ends : plan.Ends (fun p => ∃ v, p.IsJson v) Failure.IsExpected) :
    Holds (fun response => ∃ v : Json, v.isWhole ∧ response.status = 200 ∧
      response.body = Payload.wrapped (callback? query) (v.render .compact) ∧ response.IsMeasured)
      Failure.IsExpected (inSession statements query plan).outcome := by
  have kind := ends.outcome_run (repository_failsAs plain)
  rw [inSession, Session.outcome_bracket, execute]
  cases result : (plan.run (Store.repository statements)).outcome with
  | error f =>
    rw [result] at kind
    exact kind
  | ok p =>
    rw [result] at kind
    obtain ⟨v, json⟩ := kind
    have shown := json.render query
    simp only [Except.bind]
    cases rendered : p.render query with
    | error f =>
      rw [rendered] at shown
      obtain ⟨cause, rfl⟩ := shown
      exact .refused _ _ _
    | ok response =>
      rw [rendered] at shown
      exact ⟨v, json.whole, shown⟩

theorem outcome_inSession {statements : Statements} (plain : statements.FailPlainly)
    (query : String) {plan : Plan Payload}
    (ends : plan.Ends (fun p => ∃ v, p.IsJson v) Failure.IsExpected) :
    Outcome query (inSession statements query plan).outcome := by
  have kind := holds_inSession plain query ends
  cases result : (inSession statements query plan).outcome with
  | error f =>
    rw [result] at kind
    exact outcome_of_isExpected kind query
  | ok response =>
    rw [result] at kind
    obtain ⟨v, whole, status, body, measured⟩ := kind
    exact .value v whole status body measured

theorem outcome_handle (s : Service) (database : Option Statements)
    (plain : ∀ statements, database = some statements → statements.FailPlainly)
    (draw : Assembly.Draw) (r : Request) :
    Outcome r.query (s.handle database draw r).outcome := by
  unfold handle
  split
  · exact .failed answerable_noRoute (.inl rfl)
  split
  swap
  · exact .failed answerable_wrongMethod (.inr (.inl rfl))
  unfold handleRoute
  split
  · exact .moved rfl (by simp [Response.IsMeasured, Response.redirect, Header.values]; rfl)
  · rename_i plan planned
    cases database with
    | none =>
      have expected : noDatabase.IsExpected := .plain trivial
      exact outcome_of_isExpected expected _
    | some statements => exact outcome_inSession (plain _ rfl) _ (Route.ends_plan? planned)

/-- Whatever is asked for, and whatever fails below, a service sends one response. It carries the fixed
fields once each, the length of its body, and a body that fits its status. -/
theorem serve_envelope (s : Service) (sendable : s.Sendable) (database : Option Statements)
    (plain : ∀ statements, database = some statements → statements.FailPlainly)
    (draw : Assembly.Draw) (r : Request) (wellFormed : r.WellFormed) :
    ∃ sent, (s.serve database draw r).response = some sent ∧
      sent.status ∈ [200, 302, 404, 405, 500] ∧
      Header.values "server" sent.headers = [s.serverName] ∧
      Header.values "x-wisdom-media-type" sent.headers = [s.mediaType] ∧
      Header.values "content-type" sent.headers = ["application/json; charset=utf-8"] ∧
      Header.values "content-length" sent.headers =
        [Number.integerText sent.body.utf8ByteSize] ∧
      (sent.status ∈ [404, 405, 500] → ∃ message : String,
        let error : Json := .object [("error", .string message), ("code", .integer sent.status)]
        sent.body = error.render .compact ∧ Json.parse sent.body = some error) ∧
      (sent.status = 200 → ∃ value text, Json.parse text = some value ∧
        sent.body = match callback? r.query with
          | some name => name ++ "(" ++ text ++ ")"
          | none => text) := by
  obtain ⟨url, address⟩ := r.address_ok wellFormed
  have kind := outcome_handle s database plain draw r
  generalize handled : (s.handle database draw r).outcome = outcome at kind
  cases kind with
  | @moved response status measured =>
    obtain ⟨sent, answer, same, body, enveloped⟩ := serve_of_ok sendable address handled measured
    have moved : sent.status = 302 := same.trans status
    refine ⟨sent, answer, by simp [moved], enveloped.server, enveloped.mediaType,
      enveloped.contentType, enveloped.length, ?_, ?_⟩
    · simp [moved]
    · simp [moved]
  | @value response v whole status text measured =>
    obtain ⟨sent, answer, same, body, enveloped⟩ := serve_of_ok sendable address handled measured
    have found : sent.status = 200 := same.trans status
    refine ⟨sent, answer, by simp [found], enveloped.server, enveloped.mediaType,
      enveloped.contentType, enveloped.length, by simp [found], fun _ => ?_⟩
    refine ⟨v, v.render .compact, Json.parse_render Json.compact_separates whole, ?_⟩
    exact body.trans text
  | @failed f answerable code =>
    obtain ⟨sent, answer, same, body, enveloped⟩ :=
      serve_of_error sendable address handled answerable
    have listed : sent.status = 404 ∨ sent.status = 405 ∨ sent.status = 500 := by rwa [same]
    have written : sent.body = (Json.object [("error", .string (answerBody f).error),
        ("code", .integer sent.status)]).render .compact := by
      rw [body, same]
      rfl
    refine ⟨sent, answer, by simp [listed], enveloped.server, enveloped.mediaType,
      enveloped.contentType, enveloped.length, fun _ => ?_, fun found => ?_⟩
    · refine ⟨(answerBody f).error, written, ?_⟩
      rw [written]
      exact Json.parse_render Json.compact_separates rfl
    · rw [found] at listed
      exact absurd listed (by decide)

/-- The third of the statements fails, under a Host header that is none. -/
theorem serve_envelope_interrupted :
    let s : Service := ⟨"Wisdom", "application/vnd.wisdom.v1+json", "/docs", Route.Template.all⟩
    let tables : Tables := ⟨[⟨1, none, "Ada", none, some "ada"⟩], [], [⟨5, 1, "p", "q", "", ""⟩], []⟩
    let statements := (Statements.onTables tables 0 []).failingAt 2
      (.fault .operational (some "disk"))
    let r : Request := ⟨"GET", "/v1/author/ada", "callback=f", some "a b", "http",
      some ⟨"::1", 8000⟩, none⟩
    s.Sendable ∧ statements.FailPlainly ∧ r.WellFormed ∧
      ∃ sent, (s.serve (some statements) (Assembly.Draw.pick 0) r).response = some sent ∧
        sent.status ∈ [200, 302, 404, 405, 500] ∧
        Header.values "server" sent.headers = ["Wisdom"] ∧
        Header.values "content-length" sent.headers =
          [Number.integerText sent.body.utf8ByteSize] := by
  intro s tables statements r
  have sendable : s.Sendable := ⟨by decide, by decide⟩
  have plain : statements.FailPlainly :=
    failPlainly_failingAt (failPlainly_onTables tables 0 (by simp)) 2 trivial
  have wellFormed : r.WellFormed :=
    ⟨by decide, by decide, ⟨"::1", 8000⟩, rfl, .literal (by decide)⟩
  refine ⟨sendable, plain, wellFormed, ?_⟩
  obtain ⟨sent, answer, status, server, -, -, length, -⟩ :=
    serve_envelope s sendable (some statements) (by rintro _ ⟨⟩; exact plain)
      (Assembly.Draw.pick 0) r wellFormed
  exact ⟨sent, answer, status, server, length⟩

end Service
end QuoteService.Http
