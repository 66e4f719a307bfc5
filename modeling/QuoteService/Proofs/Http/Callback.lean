import Mathlib
import QuoteService.Proofs.Http.Reply

/-! What a query can change. All of it that a handler reads is the name of a function; values are
wrapped for it, and redirections and failures take no notice. So two requests that differ in their
queries alone get responses that differ in the wrapping of the body and in its length, if at all. -/
namespace QuoteService.Http
open Number

/-- A request under another query. -/
def Request.asking (r : Request) (query : String) : Request := { r with query := query }

theorem Request.Received.asking {r : Request} (h : r.Received) (query : String) :
    (r.asking query).Received :=
  ⟨h.scheme, h.server⟩

/-- A value as its handler gives it. -/
def Response.ofValue (body : String) : Response :=
  ⟨200, [("content-length", integerText body.utf8ByteSize), ("content-type", jsonContentType)], body⟩

namespace Service

variable {s : Service} {database : Option Statements} {draw : Assembly.Draw} {r : Request}

/-- What handlers give for all queries: a value under the wrapping that the query asks for, or the same
redirection or failure for each. -/
inductive Uniform (outcome : String → Except Failure Response) : Prop
  | moved {response : Response} (status : response.status = 302)
    (same : ∀ query, outcome query = .ok response)
  | value {body : String}
    (wrapped : ∀ query, outcome query = Response.make 200 [] (some jsonContentType)
      (Payload.wrapped (callback? query) body))
  | failed {f : Failure} (same : ∀ query, outcome query = .error f)

theorem uniform_inSession (statements : Statements) (plan : Plan Payload) :
    Uniform fun query => (inSession statements query plan).outcome := by
  simp only [inSession, Session.outcome_bracket, execute]
  generalize (plan.run (Store.repository statements)).outcome = outcome
  cases outcome with
  | error f => exact .failed fun _ => rfl
  | ok payload =>
    dsimp only [Except.bind, Payload.render]
    generalize payload.encode = encoded
    cases encoded with
    | error cause => exact .failed fun _ => rfl
    | ok body => exact .value fun _ => rfl

theorem uniform_handle (s : Service) (database : Option Statements) (draw : Assembly.Draw)
    (r : Request) : Uniform fun query => (s.handle database draw (r.asking query)).outcome := by
  dsimp only [handle, Request.asking]
  generalize Route.ofPath? s.templates r.path = found
  cases found with
  | none => exact .failed fun _ => rfl
  | some route =>
    dsimp only
    by_cases get : r.method = "GET"
    · simp only [if_pos get, handleRoute]
      generalize route.plan? draw = planned
      cases planned with
      | none => exact .moved rfl fun _ => rfl
      | some plan =>
        cases database with
        | none => exact .failed fun _ => rfl
        | some statements => exact uniform_inSession statements plan
    · simp only [if_neg get]
      exact .failed fun _ => rfl

/-- A value as it is sent. -/
def valueResponse (s : Service) (body : String) : Response :=
  { Response.ofValue body with headers := Response.stamped s (Response.ofValue body).headers }

theorem reply?_value (sendable : s.Sendable) (body : String) :
    s.reply? (Response.make 200 [] (some jsonContentType) body) = some (s.valueResponse body) := by
  have bodied : Response.isBodiless 200 = false := by decide
  have none : ([] : List (String × String)).mapM (fun h => Header.ofPair h.1 h.2) = .ok [] := rfl
  have made : Response.make 200 [] (some jsonContentType) body = .ok (.ofValue body) :=
    Response.make_eq bodied none rfl jsonContentType body
  rw [made]
  dsimp only [reply?]
  rw [stampedReply?_sendable sendable]
  rfl

theorem isMeasured_valueResponse (s : Service) (body : String) :
    (s.valueResponse body).IsMeasured := by
  have measured : (Response.ofValue body).IsMeasured := by
    simp [Response.IsMeasured, Response.ofValue, Header.values]
  exact (Response.isEnveloped_stamped measured).length

/-- Values differ in their bodies and the lengths of these, and in nothing else. -/
theorem valueResponse_alike (s : Service) (first second : String) :
    let others (response : Response) := response.headers.filter fun h => h.1 ≠ "content-length"
    others (s.valueResponse first) = others (s.valueResponse second) := by
  simp [valueResponse, Response.ofValue, Response.stamped, Header.put]

/-- The response to a failure is no success. -/
theorem reply?_failed (sendable : s.Sendable)
    (plain : ∀ statements, database = some statements → statements.FailPlainly)
    (received : r.Received) {f : Failure}
    (failed : (s.handle database draw r).outcome = .error f) :
    ∃ sent, s.reply? (.error f) = some sent ∧ sent.status ≠ 200 := by
  obtain ⟨a, address⟩ := r.address_received received
  have kind := outcome_handle s database plain draw r
  rw [failed] at kind
  cases kind with
  | failed answerable code =>
    obtain ⟨sent, answer, status, -⟩ := serve_of_error sendable address failed answerable
    rw [response_serve address, failed] at answer
    refine ⟨sent, answer, fun success => ?_⟩
    rw [success] at status
    rw [← status] at code
    exact absurd code (by decide)

/-- A function name in the query wraps the body of a value, and changes its length with it; no
redirection and no failure takes notice. Nothing else in the query changes any response. -/
theorem callback_transparent (s : Service) (sendable : s.Sendable) (database : Option Statements)
    (plain : ∀ statements, database = some statements → statements.FailPlainly)
    (draw : Assembly.Draw) (r : Request) (received : r.Received) :
    let answer (query : String) := (s.serve database draw (r.asking query)).response
    let others (sent : Response) := sent.headers.filter fun h => h.1 ≠ "content-length"
    ∀ query, ∃ bare sent, answer "" = some bare ∧ answer query = some sent ∧
      (∀ name, callback? query = some name → bare.status = 200 →
        sent.status = 200 ∧ sent.body = name ++ "(" ++ bare.body ++ ")" ∧
        others sent = others bare ∧ Header.values "content-length" sent.headers =
          [integerText sent.body.utf8ByteSize]) ∧
      (callback? query = none ∨ bare.status ≠ 200 → sent = bare) ∧
      ∀ other, callback? other = callback? query → answer other = answer query := by
  intro answer others query
  have reply (q : String) :
      answer q = s.reply? (s.handle database draw (r.asking q)).outcome := by
    obtain ⟨a, address⟩ := (r.asking q).address_received (received.asking q)
    exact response_serve address
  cases uniform_handle s database draw r with
  | @moved response status same =>
    have moved (q : String) : answer q = s.stampedReply? response := by
      rw [reply, same]
      rfl
    simp only [moved, stampedReply?_sendable sendable]
    refine ⟨_, _, rfl, rfl, fun name _ success => ?_, fun _ => rfl, fun _ _ => trivial⟩
    exact absurd (status.symm.trans success) (by decide)
  | @value body wrapped =>
    have valued (q : String) :
        answer q = some (s.valueResponse (Payload.wrapped (callback? q) body)) := by
      rw [reply, wrapped, reply?_value sendable]
    -- the empty query names no function, so its response is the value itself
    have silent : callback? "" = none := by decide
    have bare : answer "" = some (s.valueResponse body) := by
      rw [valued, silent]
      rfl
    refine ⟨_, _, bare, valued query, fun name asked _ => ?_, fun unasked => ?_, fun other same => ?_⟩
    · rw [asked]
      exact ⟨rfl, rfl, valueResponse_alike s _ _, isMeasured_valueResponse s _⟩
    · obtain none | failed := unasked
      · rw [none]
        rfl
      · exact absurd rfl failed
    · rw [valued, valued, same]
  | @failed f same =>
    have failed (q : String) : answer q = s.reply? (.error f) := by
      rw [reply, same]
    obtain ⟨sent, answered, status⟩ := reply?_failed sendable plain (received.asking "") (same "")
    simp only [failed, answered]
    refine ⟨sent, sent, rfl, rfl, fun name _ success => absurd success status, fun _ => rfl, ?_⟩
    exact fun _ _ => trivial

/-- The tags for the function of the second parameter, since the first is empty. -/
theorem callback_transparent_tags :
    let s : Service := ⟨"Wisdom", "wisdom.V1", "/docs", Route.Template.all⟩
    let statements := Statements.onTables ⟨[], [⟨8, "late"⟩], [], []⟩ 0 []
    let r : Request := ⟨"GET", "/v1/tags", "", some "a b", "http", some ⟨"::1", 8000⟩, none⟩
    let query := "callback=&a=b&jsonp=f%C3%A9"
    let answer (query : String) :=
      (s.serve (some statements) (Assembly.Draw.pick 0) (r.asking query)).response
    s.Sendable ∧ statements.FailPlainly ∧ r.Received ∧ callback? query = some "fé" ∧
      ∃ bare sent, answer "" = some bare ∧ answer query = some sent ∧
        bare.body = "[\x7b\"id\":8,\"label\":\"late\"\x7d]" ∧ sent.status = 200 ∧
        sent.body = "fé([\x7b\"id\":8,\"label\":\"late\"\x7d])" := by
  intro s statements r query answer
  have sendable : s.Sendable := ⟨by decide, by decide⟩
  have plain : statements.FailPlainly := failPlainly_onTables _ 0 (by simp)
  have received : r.Received := ⟨by decide, ⟨"::1", 8000⟩, rfl, .literal (by decide)⟩
  have asked : callback? query = some "fé" := by cbv
  have handled : (s.handle (some statements) (Assembly.Draw.pick 0) (r.asking "")).outcome =
      .ok ⟨200, [("content-length", "25"), ("content-type", jsonContentType)],
        "[\x7b\"id\":8,\"label\":\"late\"\x7d]"⟩ := by
    cbv
  obtain ⟨url, address⟩ := (r.asking "").address_received (received.asking "")
  obtain ⟨bare, sent, plainly, wrapped, wraps, -⟩ := callback_transparent s sendable
    (some statements) (by rintro _ ⟨⟩; exact plain) (Assembly.Draw.pick 0) r received query
  obtain ⟨found, response, status, body, -⟩ := serve_of_ok sendable address handled rfl
  obtain rfl : found = bare := Option.some.inj (response.symm.trans plainly)
  obtain ⟨success, text, -⟩ := wraps "fé" asked status
  refine ⟨sendable, plain, received, asked, found, sent, plainly, wrapped, body, success, ?_⟩
  rw [text, body]
  decide

end Service
end QuoteService.Http
