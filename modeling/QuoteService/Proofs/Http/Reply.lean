import QuoteService.Proofs.Http.Envelope

/-! What a service sends is up to the outcome of its handlers alone: the address of the request goes to
the records. Where the fixed fields can be sent there is a response whatever the outcome; where they
cannot there is none at all, since a stamp and the last resort both need them. -/
namespace QuoteService.Http
open Text

theorem Header.encoded_other {text : String} (other : ¬ text.toList.all isLatin1) :
    ∃ first last, encoded text = .error (.unencodable text first last) := by
  have some : text.toList.dropWhile isLatin1 ≠ [] := by
    rwa [ne_eq, List.dropWhile_eq_nil_iff, ← List.all_eq_true]
  obtain ⟨c, rest, tail⟩ := List.exists_cons_of_ne_nil some
  have wide : isLatin1 c = false := by
    have stop := List.head?_dropWhile_not isLatin1 text.toList
    rw [tail] at stop
    simpa using stop
  simp [encoded, unencodableRun?, tail, wide]

theorem Header.ofPair_unencodable {name value lowered : String} (same : lower name = lowered)
    (plain : lowered.toList.all isLatin1) (other : ¬ value.toList.all isLatin1) :
    ∃ first last, ofPair name value = .error (.unencodable value first last) := by
  obtain ⟨first, last, failed⟩ := encoded_other other
  refine ⟨first, last, ?_⟩
  rw [ofPair, same, encoded_latin1 plain, failed]
  rfl

namespace Service

variable {s : Service} {database : Option Statements} {draw : Assembly.Draw} {r : Request}
  {a : Address}

/-- What the last resort sends, whatever has failed. -/
def lastReply? (s : Service) : Option Response :=
  (Response.make 500 s.fixed (some jsonContentType)
    ((ErrorBody.mk ServiceError.genericMessage 500).toJson.render .compact)).toOption

/-- A response with the fixed fields, or what the last resort sends in its place. -/
def stampedReply? (s : Service) (response : Response) : Option Response :=
  match response.stamp s.fixed with
  | .ok sent => some sent
  | .error _ => s.lastReply?

/-- What is sent for an outcome. -/
def reply? (s : Service) : Except Failure Response → Option Response
  | .ok response => s.stampedReply? response
  | .error failure =>
    match answered? failure with
    | none => s.lastReply?
    | some (e, own) =>
      match Response.ofError e own with
      | .ok response => s.stampedReply? response
      | .error _ => s.lastReply?

theorem lastResort_reply (records : List Log.Record) (events : List SessionEvent) (f : Failure) :
    (s.lastResort r a records events f).response = s.lastReply? := by
  unfold lastResort lastReply?
  rw [ofError_unhandled]
  split <;> rename_i made <;> rw [made] <;> rfl

/-- How an exchange ends, and what is sent then: a stamped response, or what the last resort has. -/
inductive Ended (s : Service) (r : Request) (a : Address) : Option Response → Exchange → Prop
  | stamped {response sent : Response} (stamp : response.stamp s.fixed = .ok sent)
    (records : List Log.Record) (events : List SessionEvent) :
    Ended s r a (some sent) ⟨some sent, records, none, events⟩
  | last (records : List Log.Record) (events : List SessionEvent) (f : Failure) :
    Ended s r a s.lastReply? (s.lastResort r a records events f)

theorem ended_serve (database : Option Statements) (draw : Assembly.Draw)
    (address : r.address = .ok a) :
    Ended s r a (s.reply? (s.handle database draw r).outcome) (s.serve database draw r) := by
  rw [serve, address]
  dsimp only
  generalize s.handle database draw r = handled
  obtain ⟨outcome, events⟩ := handled
  cases outcome with
  | ok response =>
    dsimp only [reply?, stampedReply?]
    cases stamp : response.stamp s.fixed with
    | ok sent => exact .stamped stamp _ events
    | error f => exact .last [] events f
  | error f =>
    dsimp only [reply?, recover]
    cases answered? f with
    | none => exact .last _ events f
    | some found =>
      obtain ⟨e, own⟩ := found
      dsimp only
      cases Response.ofError e own with
      | error other => exact .last _ events other
      | ok response =>
        dsimp only [stampedReply?]
        cases stamp : response.stamp s.fixed with
        | ok sent => exact .stamped stamp _ events
        | error f => exact .last _ events f

/-- A request has its say in the response by way of its handler alone. -/
theorem response_serve (address : r.address = .ok a) :
    (s.serve database draw r).response = s.reply? (s.handle database draw r).outcome := by
  have ended := ended_serve (s := s) database draw address
  generalize s.serve database draw r = served at ended
  generalize s.reply? _ = reply at ended
  cases ended with
  | stamped => rfl
  | last records events f => exact lastResort_reply records events f

theorem stampedReply?_sendable (sendable : s.Sendable) (response : Response) :
    s.stampedReply? response =
      some { response with headers := Response.stamped s response.headers } := by
  dsimp only [stampedReply?]
  simp only [Response.stamp_eq sendable]

theorem lastReply?_sendable (sendable : s.Sendable) : s.lastReply? = some s.lastResponse := by
  rw [lastReply?, make_lastResponse sendable]
  rfl

/-- Where the fixed fields can be sent, there is a response with them whatever has failed. -/
theorem serve_sendable (sendable : s.Sendable) (database : Option Statements)
    (draw : Assembly.Draw) (address : r.address = .ok a) :
    ∃ sent, (s.serve database draw r).response = some sent ∧
      Response.IsStamped s sent.headers := by
  have ended := ended_serve (s := s) database draw address
  generalize s.serve database draw r = served at ended
  generalize s.reply? _ = reply at ended
  cases ended with
  | @stamped response sent stamp records events =>
    rw [Response.stamp_eq sendable] at stamp
    obtain rfl := Except.ok.inj stamp
    exact ⟨_, rfl, Response.isStamped_stamped s _⟩
  | last records events f =>
    refine ⟨s.lastResponse, response_lastResort sendable records events f, ?_, ?_, ?_⟩
    all_goals simp [lastResponse, Header.values]

/-- A text that no header can carry fails the fixed fields as a whole, and every stamp with them. -/
theorem fixed_unsendable (unsendable : ¬ s.Sendable) :
    ∃ text ∈ [s.serverName, s.mediaType], ∃ first last,
      s.fixed.mapM (fun h => Header.ofPair h.1 h.2) = .error (.unencodable text first last) ∧
      ∀ response : Response, response.stamp s.fixed = .error (.unencodable text first last) := by
  have plain : ("server".toList.all isLatin1 : Prop) ∧ "x-wisdom-media-type".toList.all isLatin1 := by
    decide
  by_cases named : s.serverName.toList.all isLatin1
  · have other : ¬ s.mediaType.toList.all isLatin1 := fun typed => unsendable ⟨named, typed⟩
    have server : Header.ofPair "Server" s.serverName = .ok ("server", s.serverName) :=
      Header.ofPair_latin1 (by decide +kernel) plain.1 named
    obtain ⟨first, last, failed⟩ : ∃ first last, Header.ofPair "X-Wisdom-Media-Type" s.mediaType =
        .error (.unencodable s.mediaType first last) :=
      Header.ofPair_unencodable (by decide +kernel) plain.2 other
    refine ⟨s.mediaType, by simp, first, last, ?_, fun response => ?_⟩
    · simp only [fixed, fixedHeaders, List.mapM_cons, server, failed]
      rfl
    · simp only [Response.stamp, fixed, fixedHeaders, List.foldlM_cons, Response.setHeader,
        Header.set, server, failed]
      rfl
  · obtain ⟨first, last, failed⟩ : ∃ first last, Header.ofPair "Server" s.serverName =
        .error (.unencodable s.serverName first last) :=
      Header.ofPair_unencodable (by decide +kernel) plain.1 named
    refine ⟨s.serverName, by simp, first, last, ?_, fun response => ?_⟩
    · simp only [fixed, fixedHeaders, List.mapM_cons, failed]
      rfl
    · simp only [Response.stamp, fixed, fixedHeaders, List.foldlM_cons, Response.setHeader,
        Header.set, failed]
      rfl

/-- Where the fixed fields cannot be sent nothing is: the last resort fails as the stamp did, and its
failure is the one passed on. -/
theorem serve_unsendable (unsendable : ¬ s.Sendable) (database : Option Statements)
    (draw : Assembly.Draw) (address : r.address = .ok a) :
    (s.serve database draw r).response = none ∧
      ∃ text ∈ [s.serverName, s.mediaType], ∃ first last,
        (s.serve database draw r).raised = some (.unencodable text first last) := by
  obtain ⟨text, own, first, last, fields, refused⟩ := fixed_unsendable unsendable
  have ended := ended_serve (s := s) database draw address
  generalize s.serve database draw r = served at ended
  generalize s.reply? _ = reply at ended
  cases ended with
  | stamped stamp records events =>
    rw [refused] at stamp
    cases stamp
  | last records events f =>
    have failed : Response.ofError (Request.unhandled f) s.fixed =
        .error (.unencodable text first last) := by
      rw [ofError_unhandled, Response.make, fields]
      rfl
    unfold lastResort
    rw [failed]
    exact ⟨rfl, text, own, first, last, rfl⟩

end Service
end QuoteService.Http
