import QuoteService.Http.Exchange
import QuoteService.Proofs.Http.Address

/-! The path that records show of a request. It is made of the request's path alone: no Host header,
server, scheme or query moves the place where a reader of the address finds the path. -/
namespace QuoteService.Http
open Text

namespace Authority

/-- A host of a server that can stand in an address: a name, or a literal with or without
brackets. -/
inductive IsServerHost : List Char → Prop
  | name {cs : List Char} (chars : ∀ c ∈ cs, isNameChar c) : IsServerHost cs
  | literal {cs : List Char} (form : isIPv6 cs ∨ isFutureLiteral cs) : IsServerHost cs
  | bracketed {cs : List Char} (form : isIPv6 cs ∨ isFutureLiteral cs) :
    IsServerHost ('[' :: cs ++ [']'])

/-- A server that gives an address its place. A name may be empty if the port is written. -/
structure IsPlace (scheme : String) (server : Endpoint) : Prop where
  host : IsServerHost server.host.toList
  written : server.host ≠ "" ∨ defaultPort? scheme ≠ some server.port

variable {host : String} {cs port : List Char}

theorem isNameChar_of_isInner {c : Char} (inner : IsInner c) (noColon : c ≠ ':') :
    isNameChar c := by
  obtain ⟨char, opens, closes⟩ := inner
  simpa [isAuthorityChar, noColon, opens, closes] using char

theorem toList_bracketed (text : host.toList = cs) (inner : ∀ c ∈ cs, IsInner c)
    (colon : ':' ∈ cs) : (bracketed host).toList = '[' :: cs ++ [']'] := by
  have opened : cs.head? ≠ some '[' := fun first =>
    (inner '[' (List.mem_of_head? first)).2.1 rfl
  simp [bracketed, text, colon, opened]

theorem isWritten_of_isServerHost (h : IsServerHost host.toList)
    (suffix : port = [] ∨ ∃ digits, port = ':' :: digits ∧ ∀ c ∈ digits, isNameChar c)
    (some : host ≠ "" ∨ port ≠ []) : IsWritten ((bracketed host).toList ++ port) := by
  have asName (chars : ∀ c ∈ host.toList, isNameChar c) (nonempty : host ≠ "") :=
    isWritten_bracketed (.name (by simpa using nonempty) chars) suffix
  generalize text : host.toList = cs at h asName
  cases h with
  | name chars =>
    by_cases empty : host = ""
    · obtain rfl | ⟨digits, rfl, numeric⟩ := suffix
      · simp [empty] at some
      · subst empty
        exact .name (by simp) (List.forall_mem_cons.2 ⟨.inr rfl, fun c mem => .inl (numeric c mem)⟩)
    · exact asName chars empty
  | literal form =>
    obtain six | future := form
    · exact isWritten_bracketed (text ▸ .literal six) suffix
    · have inner := isFutureLiteral_chars future
      by_cases colon : ':' ∈ cs
      · rw [toList_bracketed text inner colon]
        simpa using IsWritten.literal (.inr future) suffix
      · -- without a colon a literal is a name
        refine asName (fun c mem => isNameChar_of_isInner (inner c mem) ?_) ?_
        · rintro rfl
          exact colon mem
        · rintro rfl
          subst text
          cases future
  | bracketed form =>
    have kept : bracketed host = host := by simp [bracketed, text]
    rw [kept, text]
    simpa using IsWritten.literal form suffix

/-- The address of such a server is written as authorities are. -/
theorem IsPlace.isWritten {scheme : String} {server : Endpoint} (place : IsPlace scheme server)
    {authority : String} (given : ofServer scheme server = .ok authority) :
    IsWritten authority.toList := by
  unfold ofServer at given
  split at given
  · cases given
  · rename_i usual known
    split at given <;> cases given
    · rename_i same
      have some : server.host ≠ "" := place.written.resolve_right (by simp [known, same])
      simpa using isWritten_of_isServerHost place.host (.inl rfl) (.inl some)
    · have numeric := toList_integerText_chars server.port
      simpa using isWritten_of_isServerHost place.host (.inr ⟨_, rfl, numeric⟩) (.inr (by simp))

end Authority

namespace Address

/-- What records show of a character of a path. -/
def shownChar (c : Char) : List Char :=
  if c = '?' then ['%', '3', 'F']
  else if c = '#' then ['%', '2', '3']
  else if c = '\\' then ['%', '5', 'C']
  else if c = '\t' ∨ c = '\r' ∨ c = '\n' then []
  else [c]

/-- What records show of a path. -/
def shownPath (path : String) : String := String.ofList (path.toList.flatMap shownChar)

theorem filter_escapePathChar (c : Char) :
    (escapePathChar c).filter (fun d => !isDropped d) = shownChar c := by
  unfold escapePathChar
  split
  · decide
  · decide
  · decide
  · rename_i noQuestion noHash noSlash
    rw [shownChar, if_neg noQuestion, if_neg noHash, if_neg noSlash]
    by_cases dropped : c = '\t' ∨ c = '\r' ∨ c = '\n'
    · rw [if_pos dropped]
      obtain rfl | rfl | rfl := dropped <;> rfl
    · rw [if_neg dropped, List.filter_eq_self]
      simpa [isDropped, and_assoc] using dropped

theorem shown_eq_flatMap (path : List Char) : shown path = path.flatMap shownChar := by
  rw [shown, escapePath, List.filter_flatMap]
  simp only [filter_escapePathChar]

end Address

namespace Request

/-- A request with a rooted path whose address has a place: that of an accepted Host header, or else
that of the server. -/
structure Located (r : Request) : Prop where
  path : r.path.toList.head? = some '/'
  scheme : (Authority.defaultPort? r.scheme).isSome
  place : (∃ host, r.host = some host ∧ Authority.isAccepted host) ∨
    ∃ server, r.server = some server ∧ Authority.IsPlace r.scheme server

variable {r : Request}

/-- A located request has an address, and a reader of it finds the path that is shown. -/
theorem Located.address (located : r.Located) :
    ∃ url, r.address = .ok ⟨url, Address.shownPath r.path⟩ := by
  obtain ⟨authority, given, written⟩ := authority_written located.scheme fun refused => by
    obtain ⟨host, sent, accepted⟩ | ⟨server, reached, place⟩ := located.place
    · simp [sent, accepted] at refused
    · exact ⟨server, reached, fun _ given => place.isWritten given⟩
  rw [Address.shownPath, ← Address.shown_eq_flatMap, ← Address.foundPath_rooted located.path]
  exact address_of_authority located.scheme given written

theorem lookup_fields (r : Request) (a : Address) :
    (r.fields a).lookup "path" = some (.string a.path) := rfl

/-- The path that records show of a located request is its own path, with what would end it or
divide it escaped, and without tabs and line ends. So it is the same for all located requests of one
path. -/
theorem fields_path (r : Request) (located : r.Located) :
    ∃ a, r.address = .ok a ∧
      (r.fields a).lookup "path" = some (.string (Address.shownPath r.path)) ∧
      ∀ other : Request, other.Located → other.path = r.path →
        ∃ b, other.address = .ok b ∧
          (other.fields b).lookup "path" = (r.fields a).lookup "path" := by
  obtain ⟨url, address⟩ := located.address
  refine ⟨_, address, lookup_fields r _, fun other placed same => ?_⟩
  obtain ⟨elsewhere, found⟩ := placed.address
  exact ⟨_, found, by rw [lookup_fields, lookup_fields, same]⟩

/-- A request in which path, query and Host header look like other parts of an address. -/
def misleading : Request where
  method := "GET"
  path := "//a:80/v1?b#c\\d\r\n@[::]/\té"
  query := "#//e/v1?"
  host := some "f:80@g"
  scheme := "http"
  server := some ⟨"", 8000⟩
  client := none

/-- The same path over another host, scheme and query. -/
def elsewhere : Request :=
  { misleading with query := "", host := some "[::1]:0", scheme := "https", server := none }

theorem fields_path_misleading :
    ∃ a, misleading.address = .ok a ∧
      (misleading.fields a).lookup "path" = some (.string "//a:80/v1%3Fb%23c%5Cd@[::]/é") ∧
      ∃ b, elsewhere.address = .ok b ∧
        (elsewhere.fields b).lookup "path" = (misleading.fields a).lookup "path" := by
  have unnamed : Authority.IsPlace "http" ⟨"", 8000⟩ := ⟨.name (by simp), .inr (by decide)⟩
  have located : misleading.Located := ⟨by decide, by decide, .inr ⟨_, rfl, unnamed⟩⟩
  have moved : elsewhere.Located := ⟨by decide, by decide, .inl ⟨_, rfl, by decide +kernel⟩⟩
  have shown : Address.shownPath misleading.path = "//a:80/v1%3Fb%23c%5Cd@[::]/é" := by
    decide +kernel
  obtain ⟨a, address, path, same⟩ := fields_path misleading located
  exact ⟨a, address, by rw [path, shown], same elsewhere moved rfl⟩

end Request
end QuoteService.Http
