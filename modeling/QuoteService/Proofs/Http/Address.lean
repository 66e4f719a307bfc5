import QuoteService.Proofs.Http.Authority
import QuoteService.Proofs.Text.Span

/-! The address of a request that came over a server with an address of its own: it is always read, and
the path found in it is that of the request. -/
namespace QuoteService.Http
open Text

/-- A request that was received at an address, under a scheme that has a port. -/
structure Request.Received (r : Request) : Prop where
  scheme : (Authority.defaultPort? r.scheme).isSome
  server : ∃ s, r.server = some s ∧ Authority.IsHost s.host.toList

/-- A request as a server hands it over: its path is rooted, and it was received at an address under a
scheme that has a port. -/
structure Request.WellFormed (r : Request) : Prop where
  path : r.path.toList.head? = some '/'
  scheme : (Authority.defaultPort? r.scheme).isSome
  server : ∃ s, r.server = some s ∧ Authority.IsHost s.host.toList

theorem Request.WellFormed.received {r : Request} (h : r.WellFormed) : r.Received :=
  ⟨h.scheme, h.server⟩

namespace Address

/-- The path of a request as it is found in its address. -/
def shown (path : List Char) : List Char := (escapePath path).filter fun c => !isDropped c

/-- The text of a scheme in front of a colon. -/
structure IsScheme (scheme : List Char) : Prop where
  first : ∃ c rest, scheme = c :: rest ∧ c.isAlpha ∧ 0x20 < c.toNat
  chars : scheme.all isSchemeChar

theorem isSchemeChar_plain {c : Char} (h : isSchemeChar c) : c ≠ ':' ∧ isDropped c = false := by
  have name : Authority.isNameChar c := by
    simp only [isSchemeChar, Bool.or_eq_true, beq_iff_eq] at h
    obtain ((plain | rfl) | rfl) | rfl := h
    · simp [Authority.isNameChar, plain]
    all_goals decide
  obtain ⟨char, -, -, noColon⟩ := Authority.isNameChar_plain name
  exact ⟨noColon, (Authority.isAuthorityChar_harmless char).2.2.1⟩

theorem isScheme_of_defaultPort? {scheme : String} (h : (Authority.defaultPort? scheme).isSome) :
    IsScheme scheme.toList := by
  unfold Authority.defaultPort? at h
  split at h
  · exact ⟨⟨'h', _, rfl, by decide, by decide⟩, by decide⟩
  · exact ⟨⟨'w', _, rfl, by decide, by decide⟩, by decide⟩
  · exact ⟨⟨'h', _, rfl, by decide, by decide⟩, by decide⟩
  · exact ⟨⟨'w', _, rfl, by decide, by decide⟩, by decide⟩
  · cases h

theorem filter_of_plain {cs : List Char} (plain : ∀ c ∈ cs, isDropped c = false) :
    cs.filter (fun c => !isDropped c) = cs := by
  rw [List.filter_eq_self]
  intro c mem
  rw [plain c mem]
  rfl

theorem cleaned_scheme {scheme : List Char} (h : IsScheme scheme) (rest : List Char) :
    cleaned (scheme ++ ':' :: rest) = scheme ++ ':' :: rest.filter fun c => !isDropped c := by
  have kept : (scheme ++ ':' :: rest).dropWhile (fun c => decide (c.toNat ≤ 0x20)) =
      scheme ++ ':' :: rest := by
    obtain ⟨c, more, rfl, -, large⟩ := h.first
    rw [List.cons_append, List.dropWhile_cons_of_neg (by simpa using large)]
  have colon : isDropped ':' = false := by decide
  have all := List.all_eq_true.1 h.chars
  rw [cleaned, kept, List.filter_append,
    filter_of_plain fun c mem => (isSchemeChar_plain (all c mem)).2]
  simp [colon]

theorem afterScheme_scheme {scheme : List Char} (h : IsScheme scheme) (rest : List Char) :
    afterScheme (scheme ++ ':' :: rest) = rest := by
  have inside : ∀ c ∈ scheme, c != ':' := fun c mem => by
    simpa using (isSchemeChar_plain (List.all_eq_true.1 h.chars c mem)).1
  have stop : ∀ c, (':' :: rest).head? = some c → (c != ':') = false := by simp
  have all := h.chars
  obtain ⟨c, more, rfl, alpha, -⟩ := h.first
  simp only [afterScheme, takeWhile_append_stop inside stop, dropWhile_append_stop inside stop,
    alpha, all, Bool.and_self, if_true]

theorem escapePath_rooted {path : List Char} (h : path.head? = some '/') :
    ∃ more, escapePath path = '/' :: more := by
  cases path with
  | nil => cases h
  | cons c rest =>
    obtain rfl : c = '/' := by simpa using h
    exact ⟨rest.flatMap escapePathChar, rfl⟩

theorem rooted_of_slash {path : List Char} (h : path.head? = some '/') : rooted path = path := by
  cases path with
  | nil => rfl
  | cons c rest =>
    obtain rfl : c = '/' := by simpa using h
    rfl

/-- Behind an authority stands a slash or nothing. -/
theorem head?_rooted {path : List Char} {c : Char} (first : (rooted path).head? = some c) :
    c = '/' := by
  unfold rooted at first
  split at first
  · cases first
  all_goals simpa [eq_comm] using first

theorem mem_rooted {path : List Char} {c : Char} (mem : c ∈ rooted path) : c = '/' ∨ c ∈ path := by
  unfold rooted at mem
  split at mem
  · cases mem
  · exact .inr mem
  · exact List.mem_cons.1 mem

/-- No character of an escaped path ends it. -/
theorem escapePath_chars (path : List Char) : ∀ c ∈ escapePath path, c ≠ '?' ∧ c ≠ '#' := by
  intro c mem
  obtain ⟨d, -, escaped⟩ := List.mem_flatMap.1 mem
  unfold escapePathChar at escaped
  split at escaped
  · have all : ∀ x ∈ ['%', '3', 'F'], x ≠ '?' ∧ x ≠ '#' := by simp
    exact all c escaped
  · have all : ∀ x ∈ ['%', '2', '3'], x ≠ '?' ∧ x ≠ '#' := by simp
    exact all c escaped
  · have all : ∀ x ∈ ['%', '5', 'C'], x ≠ '?' ∧ x ≠ '#' := by simp
    exact all c escaped
  · rename_i noQuestion noHash _
    obtain rfl := List.mem_singleton.1 escaped
    exact ⟨noQuestion, noHash⟩

/-- A path behind an authority, as a reader finds it. -/
def foundPath (path : List Char) : List Char :=
  (rooted (escapePath path)).filter fun c => !isDropped c

theorem foundPath_rooted {path : List Char} (h : path.head? = some '/') :
    foundPath path = shown path := by
  obtain ⟨more, escaped⟩ := escapePath_rooted h
  rw [foundPath, rooted_of_slash (by rw [escaped]; rfl), shown]

theorem foundPath_chars (path : List Char) : ∀ c ∈ foundPath path, c ≠ '?' ∧ c ≠ '#' := by
  intro c mem
  obtain rfl | inside := mem_rooted (List.mem_filter.1 mem).1
  · decide
  · exact escapePath_chars path c inside

theorem head?_foundPath {path : List Char} {c : Char} (first : (foundPath path).head? = some c) :
    c = '/' := by
  have slash : isDropped '/' = false := by decide
  cases rootedPath : rooted (escapePath path) with
  | nil => simp [foundPath, rootedPath] at first
  | cons d rest =>
    have begins : (rooted (escapePath path)).head? = some d := by
      rw [rootedPath]
      rfl
    obtain rfl : d = '/' := head?_rooted begins
    simpa [foundPath, rootedPath, slash, eq_comm] using first

/-- The parts of an address with a scheme and an authority. -/
theorem compose_authority {scheme authority : String} (named : IsScheme scheme.toList)
    (written : Authority.IsWritten authority.toList) (path query : String) :
    compose scheme (some authority) path query =
      scheme.toList ++ ':' :: '/' :: '/' :: (authority.toList ++ (rooted (escapePath path.toList) ++
        if query = "" then [] else '?' :: query.toList)) := by
  have named : scheme ≠ "" := by
    rintro rfl
    obtain ⟨c, rest, none, -⟩ := named.first
    cases none
  cases text : authority.toList with
  | nil => exact absurd text written.ne_nil
  | cons c rest => simp [compose, located, text, named]

/-- The text of an address, once tabs and line ends are dropped. -/
theorem cleaned_compose {scheme authority : String} (named : IsScheme scheme.toList)
    (written : Authority.IsWritten authority.toList) (path query : String) :
    ∃ tail, (∀ c, tail.head? = some c → c = '?') ∧
      cleaned (compose scheme (some authority) path query) =
        scheme.toList ++ ':' :: '/' :: '/' ::
          (authority.toList ++ (foundPath path.toList ++ tail)) := by
  have plain : ∀ c ∈ authority.toList, isDropped c = false := fun c mem =>
    (Authority.isAuthorityChar_harmless (written.chars c mem)).2.2.1
  have slash : isDropped '/' = false := by decide
  refine ⟨(if query = "" then [] else '?' :: query.toList).filter fun c => !isDropped c, ?_, ?_⟩
  · split
    · simp
    · simp [isDropped]
  · rw [compose_authority named written, cleaned_scheme named]
    simp only [List.filter_cons, List.filter_append, slash, filter_of_plain plain, foundPath,
      Bool.not_false, if_true]

/-- The path of a composed address is found again. -/
theorem pathOf_compose {scheme authority : String} (named : IsScheme scheme.toList)
    (written : Authority.IsWritten authority.toList) (path query : String) :
    pathOf (compose scheme (some authority) path query) =
      .ok (String.ofList (foundPath path.toList)) := by
  obtain ⟨tail, question, text⟩ := cleaned_compose named written path query
  have inAuthority : ∀ c ∈ authority.toList, !isAuthorityEnd c := fun c mem => by
    rw [(Authority.isAuthorityChar_harmless (written.chars c mem)).2.1]
    rfl
  have authorityStops : ∀ c, (foundPath path.toList ++ tail).head? = some c →
      (!isAuthorityEnd c) = false := by
    intro c first
    have ends : c = '/' ∨ c = '?' := by
      cases found : foundPath path.toList with
      | nil =>
        rw [found] at first
        exact .inr (question c first)
      | cons d more =>
        rw [found] at first
        exact .inl (head?_foundPath (by rw [found]; exact first))
    obtain rfl | rfl := ends <;> decide
  have inPath : ∀ c ∈ foundPath path.toList, !(c == '?' || c == '#') := by
    intro c mem
    obtain ⟨noQuestion, noHash⟩ := foundPath_chars _ c mem
    simp [noQuestion, noHash]
  have pathStops : ∀ c, tail.head? = some c → (!(c == '?' || c == '#')) = false := by
    intro c first
    rw [question c first]
    rfl
  rw [pathOf, text, afterScheme_scheme named]
  simp only [takeWhile_append_stop inAuthority authorityStops,
    dropWhile_append_stop inAuthority authorityStops, written.checkBrackets,
    written.checkLookalikes]
  change Except.ok (String.ofList ((foundPath path.toList ++ tail).takeWhile _)) = _
  rw [takeWhile_append_stop inPath pathStops]

end Address

/-- A request has an authority if it is asked for by an accepted Host header, or else was received
by a server whose address can be written. -/
theorem Request.authority_written {r : Request} (scheme : (Authority.defaultPort? r.scheme).isSome)
    (reached : r.host.filter Authority.isAccepted = none → ∃ server, r.server = some server ∧
      ∀ authority : String, Authority.ofServer r.scheme server = .ok authority →
        Authority.IsWritten authority.toList) :
    ∃ authority : String, r.authority = .ok (some authority) ∧
      Authority.IsWritten authority.toList := by
  unfold Request.authority
  cases named : r.host.filter Authority.isAccepted with
  | some text =>
    have accepted := (Option.filter_eq_some_iff.1 named).2
    exact ⟨text, rfl, Authority.isWritten_of_isAccepted accepted⟩
  | none =>
    obtain ⟨server, found, written⟩ := reached named
    obtain ⟨port, usual⟩ := Option.isSome_iff_exists.1 scheme
    cases given : Authority.ofServer r.scheme server with
    | ok authority => exact ⟨authority, by simp [found, given], written authority given⟩
    | error failure =>
      simp only [Authority.ofServer, usual] at given
      split at given <;> cases given

/-- Whatever its Host header says, such a request has an authority. -/
theorem Request.authority_ok {r : Request} (received : r.Received) :
    ∃ authority : String, r.authority = .ok (some authority) ∧
      Authority.IsWritten authority.toList := by
  obtain ⟨server, reached, host⟩ := received.server
  exact Request.authority_written received.scheme fun _ =>
    ⟨server, reached, fun _ given => Authority.isWritten_of_ofServer host given⟩

/-- A request with an authority has an address, whatever its path. -/
theorem Request.address_of_authority {r : Request} {authority : String}
    (scheme : (Authority.defaultPort? r.scheme).isSome) (given : r.authority = .ok (some authority))
    (written : Authority.IsWritten authority.toList) :
    ∃ url, r.address = .ok ⟨url, String.ofList (Address.foundPath r.path.toList)⟩ := by
  have named := Address.isScheme_of_defaultPort? scheme
  have path := Address.pathOf_compose named written r.path r.query
  refine ⟨String.ofList (Address.compose r.scheme (some authority) r.path r.query), ?_⟩
  rw [Request.address, given]
  change (do
    let found ← Address.pathOf (Address.compose r.scheme (some authority) r.path r.query)
    pure (_ : Address)) = _
  rw [path]
  rfl

theorem Request.address_received {r : Request} (received : r.Received) :
    ∃ url, r.address = .ok ⟨url, String.ofList (Address.foundPath r.path.toList)⟩ := by
  obtain ⟨authority, given, written⟩ := Request.authority_ok received
  exact Request.address_of_authority received.scheme given written

/-- A well-formed request has an address, and its own path is found there. -/
theorem Request.address_ok {r : Request} (wellFormed : r.WellFormed) :
    ∃ url, r.address = .ok ⟨url, String.ofList (Address.shown r.path.toList)⟩ := by
  rw [← Address.foundPath_rooted wellFormed.path]
  exact Request.address_received wellFormed.received

end QuoteService.Http
