import Mathlib.Data.List.TakeWhile
import Mathlib.Tactic.Common
import QuoteService.Http.Exchange

/-! Header fields of responses. The fixed fields can be set on every response, and take the place of
what it had under their names; the length of the body stays what it was. -/
namespace QuoteService.Http
open Number Text

/-- What a service says of itself can be sent in header fields. -/
structure Service.Sendable (s : Service) : Prop where
  serverName : s.serverName.toList.all isLatin1
  mediaType : s.mediaType.toList.all isLatin1

namespace Header

theorem encoded_latin1 {text : String} (latin1 : text.toList.all isLatin1) :
    encoded text = .ok text := by
  have none : text.toList.dropWhile isLatin1 = [] := by
    rw [List.dropWhile_eq_nil_iff]
    exact List.all_eq_true.1 latin1
  simp [encoded, unencodableRun?, none]

theorem ofPair_latin1 {name value lowered : String} (same : lower name = lowered)
    (plain : lowered.toList.all isLatin1) (latin1 : value.toList.all isLatin1) :
    ofPair name value = .ok (lowered, value) := by
  rw [ofPair, same, encoded_latin1 plain, encoded_latin1 latin1]
  rfl

theorem values_append (name : String) (headers more : List Header) :
    values name (headers ++ more) = values name headers ++ values name more := by
  simp [values]

theorem values_of_not_hasName {name : String} {headers : List Header}
    (absent : hasName name headers = false) : values name headers = [] := by
  have none : headers.filter (fun h => h.1 == name) = [] := by
    simpa [hasName, List.filter_eq_nil_iff] using absent
  rw [values, none]
  rfl

end Header

namespace Service

variable {s : Service}

theorem Sendable.server (h : s.Sendable) :
    Header.ofPair "Server" s.serverName = .ok ("server", s.serverName) :=
  Header.ofPair_latin1 (by decide +kernel) (by decide) h.serverName

theorem Sendable.media (h : s.Sendable) :
    Header.ofPair "X-Wisdom-Media-Type" s.mediaType = .ok ("x-wisdom-media-type", s.mediaType) :=
  Header.ofPair_latin1 (by decide +kernel) (by decide) h.mediaType

theorem ofPair_contentType :
    Header.ofPair "Content-Type" jsonContentType = .ok ("content-type", jsonContentType) :=
  Header.ofPair_latin1 (by decide +kernel) (by decide) (by decide)

theorem Sendable.mapM_fixed (h : s.Sendable) :
    s.fixed.mapM (fun h => Header.ofPair h.1 h.2) = .ok [("server", s.serverName),
      ("x-wisdom-media-type", s.mediaType), ("content-type", jsonContentType)] := by
  simp only [fixed, fixedHeaders, List.mapM_cons, List.mapM_nil, h.server, h.media,
    ofPair_contentType]
  rfl

end Service

namespace Response

theorem byteLength_eq (body : String) : byteLength body = body.utf8ByteSize := by
  rw [byteLength, encodeUtf8, ← String.size_toByteArray, ← String.utf8Encode_toList]
  simp [List.utf8Encode]

/-- The length of the body is told once, in bytes. -/
def IsMeasured (r : Response) : Prop :=
  Header.values "content-length" r.headers = [integerText r.body.utf8ByteSize]

/-- A response carries the fixed fields once each, and the length of its body. -/
structure IsEnveloped (s : Service) (r : Response) : Prop where
  server : Header.values "server" r.headers = [s.serverName]
  mediaType : Header.values "x-wisdom-media-type" r.headers = [s.mediaType]
  contentType : Header.values "content-type" r.headers = [jsonContentType]
  length : r.IsMeasured

/-- The fields of a response once the fixed ones are put in. -/
def stamped (s : Service) (headers : List Header) : List Header :=
  Header.put "content-type" jsonContentType
    (Header.put "x-wisdom-media-type" s.mediaType (Header.put "server" s.serverName headers))

theorem stamp_eq {s : Service} (sendable : s.Sendable) (r : Response) :
    r.stamp s.fixed = .ok { r with headers := stamped s r.headers } := by
  simp only [stamp, Service.fixed, fixedHeaders, List.foldlM_cons, List.foldlM_nil, setHeader,
    Header.set, sendable.server, sendable.media, Service.ofPair_contentType]
  rfl

/-- The fixed fields, once each. -/
structure IsStamped (s : Service) (headers : List Header) : Prop where
  server : Header.values "server" headers = [s.serverName]
  mediaType : Header.values "x-wisdom-media-type" headers = [s.mediaType]
  contentType : Header.values "content-type" headers = [jsonContentType]

theorem isStamped_stamped (s : Service) (headers : List Header) :
    IsStamped s (stamped s headers) where
  server := by
    rw [stamped, Header.values_put_other (by decide), Header.values_put_other (by decide),
      Header.values_put_self]
  mediaType := by
    rw [stamped, Header.values_put_other (by decide), Header.values_put_self]
  contentType := by
    rw [stamped, Header.values_put_self]

/-- Stamping sets the fixed fields and nothing else. -/
theorem isEnveloped_stamped {s : Service} {r : Response} (measured : r.IsMeasured) :
    IsEnveloped s { r with headers := stamped s r.headers } where
  server := (isStamped_stamped s r.headers).server
  mediaType := (isStamped_stamped s r.headers).mediaType
  contentType := (isStamped_stamped s r.headers).contentType
  length := by
    rw [IsMeasured, stamped, Header.values_put_other (by decide),
      Header.values_put_other (by decide), Header.values_put_other (by decide)]
    exact measured

/-- A response that says nothing of its length itself is told the length of its body. -/
theorem make_eq {status : Int} (bodied : isBodiless status = false) {own : List (String × String)}
    {fields : List Header} (sent : own.mapM (fun h => Header.ofPair h.1 h.2) = .ok fields)
    (silent : Header.hasName "content-length" fields = false) (type body : String) :
    make status own (some type) body =
      .ok ⟨status, fields ++ ("content-length", integerText body.utf8ByteSize) ::
        (if Header.hasName "content-type" fields then [] else [("content-type", type)]), body⟩ := by
  rw [make, sent]
  simp [bind, Except.bind, silent, bodied, byteLength_eq, pure, Except.pure]

theorem make_ok {status : Int} (bodied : isBodiless status = false) {own : List (String × String)}
    {fields : List Header} (sent : own.mapM (fun h => Header.ofPair h.1 h.2) = .ok fields)
    (silent : Header.hasName "content-length" fields = false) (type body : String) :
    ∃ r, make status own (some type) body = .ok r ∧ r.status = status ∧ r.body = body ∧
      r.IsMeasured := by
  refine ⟨_, make_eq bodied sent silent type body, rfl, rfl, ?_⟩
  rw [IsMeasured, Header.values_append, Header.values_of_not_hasName silent]
  split <;> simp [Header.values]

end Response
end QuoteService.Http
