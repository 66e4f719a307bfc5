import Mathlib
import QuoteService.Proofs.Http.Reply
import QuoteService.Proofs.Text.Case

/-! Failures of the transport: a status with words and header fields of its own. They are answered
under their status, with all their fields but those that the service sets itself, in whatever letter
case these were given. -/
namespace QuoteService.Http
open Text

namespace Header

theorem mem_put {name value : String} {h : Header} {headers : List Header}
    (mem : h ∈ put name value headers) : h = (name, value) ∨ h ∈ headers := by
  induction headers with
  | nil => exact .inl (List.mem_singleton.1 mem)
  | cons first rest ih =>
    unfold put at mem
    split at mem
    · obtain new | kept := List.mem_cons.1 mem
      · exact .inl new
      · exact .inr (List.mem_cons_of_mem _ (List.mem_of_mem_filter kept))
    · obtain rfl | later := List.mem_cons.1 mem
      · exact .inr List.mem_cons_self
      · exact (ih later).imp_right (List.mem_cons_of_mem _)

/-- Fields of other names keep their values and their order. -/
theorem filter_put {p : String → Bool} {name : String} (out : p name = false) (value : String)
    (headers : List Header) :
    (put name value headers).filter (fun h => p h.1) = headers.filter fun h => p h.1 := by
  induction headers with
  | nil => simp [put, out]
  | cons first rest ih =>
    unfold put
    split
    · rename_i same
      have kept : ∀ h ∈ rest, (p h.1 && decide (h.1 ≠ name)) = p h.1 := by
        intro h _
        by_cases eq : h.1 = name
        · simp [eq, out]
        · simp [eq]
      rw [List.filter_cons_of_neg (by simp [out]), List.filter_filter, List.filter_congr kept,
        List.filter_cons_of_neg (by simp [same, out])]
    · rw [List.filter_cons, List.filter_cons, ih]

/-- Names that the service sets itself: those of the fixed fields, and that of the body's length. -/
def settledNames : List String :=
  ["server", "x-wisdom-media-type", "content-type", "content-length"]

/-- The fields that are left as they were given. -/
def passed (headers : List Header) : List Header :=
  headers.filter fun h => !settledNames.contains h.1

theorem passed_append (headers more : List Header) :
    passed (headers ++ more) = passed headers ++ passed more :=
  List.filter_append headers more

theorem passed_put {name : String} (settled : name ∈ settledNames) (value : String)
    (headers : List Header) : passed (put name value headers) = passed headers :=
  filter_put (p := fun name => !settledNames.contains name) (by simp [settled]) value headers

theorem passed_eq_nil {headers : List Header} (all : ∀ h ∈ headers, h.1 ∈ settledNames) :
    passed headers = [] := by
  rw [passed, List.filter_eq_nil_iff]
  intro h mem
  simp [all h mem]

/-- Fields of Latin-1 texts are sent, under their names in lower case. -/
theorem mapM_ofPair {own : List (String × String)}
    (latin1 : ∀ h ∈ own, h.1.toList.all isLatin1 ∧ h.2.toList.all isLatin1) :
    own.mapM (fun h => ofPair h.1 h.2) = .ok (own.map fun h => (lower h.1, h.2)) := by
  induction own with
  | nil => rfl
  | cons first rest ih =>
    obtain ⟨⟨name, value⟩, others⟩ := List.forall_mem_cons.1 latin1
    rw [List.mapM_cons, ofPair_latin1 rfl (isLatin1_lower name) value, ih others]
    rfl

end Header

namespace Response

/-- A response has its own fields, and behind them no more than its length and type. -/
theorem make_of_sent {own : List (String × String)} {fields : List Header}
    (sent : own.mapM (fun h => Header.ofPair h.1 h.2) = .ok fields) (status : Int)
    (type body : String) :
    ∃ added : List Header, (∀ h ∈ added, h.1 ∈ Header.settledNames) ∧
      make status own (some type) body = .ok ⟨status, fields ++ added, body⟩ := by
  let length :=
    if Header.hasName "content-length" fields || isBodiless status then []
    else [("content-length", Number.integerText (byteLength body))]
  let last := if Header.hasName "content-type" fields then [] else [("content-type", type)]
  refine ⟨length ++ last, ?_, ?_⟩
  · have told : ∀ h ∈ length, h.1 = "content-length" := by
      dsimp only [length]
      split <;> simp
    have typed : ∀ h ∈ last, h.1 = "content-type" := by
      dsimp only [last]
      split <;> simp
    intro h mem
    obtain front | back := List.mem_append.1 mem
    · simp [told h front, Header.settledNames]
    · simp [typed h back, Header.settledNames]
  · rw [make, sent, ← List.append_assoc]
    rfl

/-- A stamped field is a fixed one, or was there before. -/
theorem mem_stamped {s : Service} {headers : List Header} {h : Header}
    (mem : h ∈ stamped s headers) :
    h.1 ∈ Header.settledNames ∨ h ∈ headers := by
  obtain rfl | mem := Header.mem_put mem
  · exact .inl (by simp [Header.settledNames])
  obtain rfl | mem := Header.mem_put mem
  · exact .inl (by simp [Header.settledNames])
  obtain rfl | mem := Header.mem_put mem
  · exact .inl (by simp [Header.settledNames])
  exact .inr mem

theorem passed_stamped (s : Service) (headers : List Header) :
    Header.passed (stamped s headers) = Header.passed headers := by
  rw [stamped, Header.passed_put (by decide), Header.passed_put (by decide),
    Header.passed_put (by decide)]

end Response

/-- The words of an answer: those of a missing route and of a wrong method are the service's own. -/
def transportMessage (status : Int) (detail : String) : String :=
  if status = 404 then "Not Found" else if status = 405 then "Method Not Allowed" else detail

theorem answered?_http (status : Int) (detail : String)
    (headers : Option (List (String × String))) :
    ∃ e, answered? (.http status detail headers) = some (e, headers.getD []) ∧
      e.body = ⟨transportMessage status detail, status⟩ := by
  by_cases missing : status = 404
  · subst missing
    exact ⟨_, rfl, rfl⟩
  by_cases wrong : status = 405
  · subst wrong
    exact ⟨_, rfl, rfl⟩
  refine ⟨⟨.general, detail, "httpExceptionHandler", .internal, .error, status, none⟩, ?_, ?_⟩
  · unfold answered?
    split <;> simp_all
  · simp [transportMessage, missing, wrong, ServiceError.body]

namespace Service

variable {s : Service} {database : Option Statements} {draw : Assembly.Draw} {r : Request}
  {a : Address}

section Answer

variable (sendable : s.Sendable) (address : r.address = .ok a) {status : Int} {detail : String}
  {headers : Option (List (String × String))}
  (raised : (s.handle database draw r).outcome = .error (.http status detail headers))

include sendable address raised

/-- The answer to a failure of the transport: its own fields, then those that are added, under the
fixed ones. -/
theorem response_http (short : Json.IsShort status) {fields : List Header}
    (sent : (headers.getD []).mapM (fun h => Header.ofPair h.1 h.2) = .ok fields) :
    ∃ added : List Header, (∀ h ∈ added, h.1 ∈ Header.settledNames) ∧
      (s.serve database draw r).response = some ⟨status, Response.stamped s (fields ++ added),
        (ErrorBody.mk (transportMessage status detail) status).toJson.render .compact⟩ := by
  obtain ⟨e, answer, body⟩ := answered?_http status detail headers
  have same : e.status = status := congrArg ErrorBody.code body
  obtain ⟨added, names, made⟩ := Response.make_of_sent sent e.status jsonContentType
    (e.body.toJson.render .compact)
  have answered : Response.ofError e (headers.getD []) = .ok _ :=
    (Response.ofError_eq (same ▸ short) _).trans made
  refine ⟨added, names, ?_⟩
  rw [response_serve address, raised]
  simp only [reply?, answer, answered, stampedReply?_sendable sendable, body, same]

/-- One under a status too long to be written is answered like a failure that nobody expected. -/
theorem response_http_long (long : ¬ Json.IsShort status) :
    (s.serve database draw r).response = some s.lastResponse := by
  obtain ⟨e, answer, body⟩ := answered?_http status detail headers
  have same : e.status = status := congrArg ErrorBody.code body
  have refused : Response.ofError e (headers.getD []) = .error Json.tooManyDigits :=
    Response.ofError_long (same ▸ long) _
  rw [response_serve address, raised]
  simp only [reply?, answer, refused, lastReply?_sendable sendable]

end Answer

/-- A failure of the transport keeps its status, which its body tells too, as long as that has no more
than 4300 digits. It keeps all its fields, under their names in lower case, but those that the service
sets itself and the length of the body; the fixed fields are there once each, whatever the failure says
of them. Only requests with an address reach a handler that can fail. -/
theorem serve_transport (s : Service) (sendable : s.Sendable) (database : Option Statements)
    (draw : Assembly.Draw) (r : Request) {a : Address} (address : r.address = .ok a) {status : Int}
    (short : Json.IsShort status) {detail : String} {headers : Option (List (String × String))}
    (latin1 : ∀ h ∈ headers.getD [], h.1.toList.all isLatin1 ∧ h.2.toList.all isLatin1)
    (raised : (s.handle database draw r).outcome = .error (.http status detail headers)) :
    let message := if status = 404 then "Not Found"
      else if status = 405 then "Method Not Allowed" else detail
    let error : Json := .object [("error", .string message), ("code", .integer status)]
    ∃ sent, (s.serve database draw r).response = some sent ∧ sent.status = status ∧
      sent.body = error.render .compact ∧ Json.parse sent.body = some error ∧
      (∀ h ∈ sent.headers, lower h.1 = h.1) ∧
      Header.values "server" sent.headers = [s.serverName] ∧
      Header.values "x-wisdom-media-type" sent.headers = [s.mediaType] ∧
      Header.values "content-type" sent.headers = ["application/json; charset=utf-8"] ∧
      Header.passed sent.headers =
        Header.passed ((headers.getD []).map fun h => (lower h.1, h.2)) := by
  intro message error
  obtain ⟨added, names, response⟩ :=
    response_http sendable address raised short (Header.mapM_ofPair latin1)
  have stamped := Response.isStamped_stamped s
    ((headers.getD []).map (fun h => (lower h.1, h.2)) ++ added)
  refine ⟨_, response, rfl, rfl, Json.parse_render Json.compact_separates rfl, ?_, stamped.server,
    stamped.mediaType, stamped.contentType, ?_⟩
  · have settled : ∀ name ∈ Header.settledNames, lower name = name := by decide +kernel
    intro h mem
    obtain fixed | mem := Response.mem_stamped mem
    · exact settled _ fixed
    obtain own | new := List.mem_append.1 mem
    · obtain ⟨given, inside, rfl⟩ := List.mem_map.1 own
      exact lower_lower (latin1 given inside).1
    · exact settled _ (names h new)
  · rw [Response.passed_stamped, Header.passed_append, Header.passed_eq_nil names, List.append_nil]

/-- A store that raises such a failure, with two spellings of a fixed field among its own. -/
theorem serve_transport_spelled :
    let s : Service := ⟨"Wisdom", "wisdom.V1", "/docs", Route.Template.all⟩
    let own := [("SERVER", "Ada"), ("Retry-After", "60"), ("server", "Bob"),
      ("Content-Type", "text/html")]
    let statements := (Statements.onTables Tables.empty 0 []).failingAt 0
      (.http 503 "over there" (some own))
    let r : Request := ⟨"GET", "/v1/tags", "", some "a b", "http", some ⟨"::1", 8000⟩, none⟩
    s.Sendable ∧ r.WellFormed ∧
      (s.handle (some statements) (Assembly.Draw.pick 0) r).outcome =
        .error (.http 503 "over there" (some own)) ∧
      ∃ sent, (s.serve (some statements) (Assembly.Draw.pick 0) r).response = some sent ∧
        sent.status = 503 ∧ Header.values "server" sent.headers = ["Wisdom"] ∧
        ("retry-after", "60") ∈ sent.headers := by
  intro s own statements r
  have sendable : s.Sendable := ⟨by decide, by decide⟩
  have wellFormed : r.WellFormed :=
    ⟨by decide, by decide, ⟨"::1", 8000⟩, rfl, .literal (by decide)⟩
  have raised : (s.handle (some statements) (Assembly.Draw.pick 0) r).outcome =
      .error (.http 503 "over there" (some own)) := by
    cbv
  obtain ⟨url, address⟩ := r.address_ok wellFormed
  obtain ⟨sent, answer, status, -, -, -, server, -, -, others⟩ :=
    serve_transport s sendable (some statements) (Assembly.Draw.pick 0) r address (by decide) (by decide)
      raised
  refine ⟨sendable, wellFormed, raised, sent, answer, status, server, ?_⟩
  have given : ("retry-after", "60") ∈ Header.passed (own.map fun h => (lower h.1, h.2)) := by
    decide +kernel
  have kept : Header.passed sent.headers =
      Header.passed (own.map fun h => (lower h.1, h.2)) := others
  rw [← kept] at given
  exact List.mem_of_mem_filter given

/-- A letter beyond ASCII in the name of a field is made small, so the field is another one; and a
status that is too long to be written is not the one that is sent. -/
theorem serve_transport_changed :
    let s : Service := ⟨"Wisdom", "wisdom.V1", "/docs", Route.Template.all⟩
    let statements (f : Failure) := (Statements.onTables Tables.empty 0 []).failingAt 0 f
    let r : Request := ⟨"GET", "/v1/tags", "", some "a b", "http", some ⟨"::1", 8000⟩, none⟩
    let accented : Failure := .http 503 "" (some [("À", "1")])
    let long : Failure := .http (10 ^ 4300) "" none
    s.Sendable ∧ r.WellFormed ∧
      (∃ sent, (s.serve (some (statements accented)) (Assembly.Draw.pick 0) r).response = some sent ∧
        ∀ h ∈ sent.headers, h.1.toLower ≠ "À".toLower) ∧
      ∃ sent, (s.serve (some (statements long)) (Assembly.Draw.pick 0) r).response = some sent ∧
        sent.status ≠ 10 ^ 4300 := by
  intro s statements r accented long
  have sendable : s.Sendable := ⟨by decide, by decide⟩
  have wellFormed : r.WellFormed :=
    ⟨by decide, by decide, ⟨"::1", 8000⟩, rfl, .literal (by decide)⟩
  have raised (status : Int) (detail : String) (headers : Option (List (String × String))) :
      (s.handle (some (statements (.http status detail headers))) (Assembly.Draw.pick 0) r).outcome =
        .error (.http status detail headers) := by
    cbv
  obtain ⟨url, address⟩ := r.address_ok wellFormed
  refine ⟨sendable, wellFormed, ?_, s.lastResponse, ?_, ?_⟩
  · obtain ⟨added, names, response⟩ :=
      response_http sendable address (raised 503 "" (some [("À", "1")])) (by decide)
        (Header.mapM_ofPair (by decide))
    have settled : ∀ name ∈ Header.settledNames, name.toLower ≠ "À".toLower := by decide +kernel
    refine ⟨_, response, fun h mem => ?_⟩
    obtain fixed | mem := Response.mem_stamped mem
    · exact settled _ fixed
    obtain own | new := List.mem_append.1 mem
    · obtain ⟨given, inside, rfl⟩ := List.mem_map.1 own
      obtain rfl := List.mem_singleton.1 inside
      decide +kernel
    · exact settled _ (names h new)
  · exact response_http_long sendable address (raised (10 ^ 4300) "" none) Json.not_isShort_pow
  · have ordinary : s.lastResponse.status = 500 := rfl
    rw [ordinary]
    exact fun same => Json.not_isShort_pow (same ▸ by decide)

end Service
end QuoteService.Http
