import Mathlib
import QuoteService.Proofs.Http.Envelope

/-! Which paths lead where. Every route is published under one path, or under one for each handle. It
is served there, and also where a single line feed follows a path that does not end in a handle; all
other paths lead nowhere. -/
namespace QuoteService.Http

/-- A segment of a path, which a handle can stand for. -/
def IsSegment (text : String) : Prop := text ≠ "" ∧ '/' ∉ text.toList

namespace Route

/-- The path that a route is published under. -/
def path : Route → String
  | .index => "/"
  | .randomQuote => "/v1/random"
  | .quotesByAuthor handle => "/v1/author/" ++ handle
  | .randomQuoteByAuthor handle => "/v1/author/" ++ handle ++ "/random"
  | .authors => "/v1/authors"
  | .tags => "/v1/tags"

/-- A route whose handle, if it has one, is a segment. -/
def IsProper : Route → Prop
  | .quotesByAuthor handle | .randomQuoteByAuthor handle => IsSegment handle
  | _ => True

/-- Whether the path of a route ends in a handle, which takes a line feed itself. -/
def endsInHandle : Route → Bool
  | .quotesByAuthor _ => true
  | _ => false

/-- A path leads to a route. -/
def Leads (text : String) (route : Route) : Prop :=
  route.IsProper ∧ (text = route.path ∨ route.endsInHandle = false ∧ text = route.path ++ "\n")

section Segments

variable {segments : List Segment} {text handle found rest : List Char}

theorem isEnd_iff : isEnd rest = true ↔ rest = [] ∨ rest = ['\n'] := by
  constructor
  · unfold isEnd
    split
    · exact fun _ => .inl rfl
    · exact fun _ => .inr rfl
    · rintro ⟨⟩
  · rintro (rfl | rfl) <;> rfl

theorem matchSegments_nil :
    matchSegments [] handle rest = some found ↔ (rest = [] ∨ rest = ['\n']) ∧ found = handle := by
  rw [matchSegments, ← isEnd_iff]
  by_cases ends : isEnd rest <;> simp [ends, eq_comm]

theorem matchSegments_literal :
    matchSegments (.literal text :: segments) handle rest = some found ↔
      ∃ more, rest = text ++ more ∧ matchSegments segments handle more = some found := by
  rw [matchSegments]
  cases cut : text.isPrefixOf? rest with
  | none =>
    simp only [reduceCtorEq, false_iff, not_exists, not_and]
    rintro more rfl
    have same := List.isPrefixOf?_eq_some_iff_append_eq.2 (rfl : text ++ more = text ++ more)
    rw [cut] at same
    cases same
  | some more =>
    have split := List.isPrefixOf?_eq_some_iff_append_eq.1 cut
    constructor
    · intro matched
      exact ⟨more, split.symm, matched⟩
    · rintro ⟨other, rfl, matched⟩
      rwa [List.append_cancel_left split]

/-- A handle takes all up to a slash or to the end. -/
theorem matchSegments_handle :
    matchSegments (.handle :: segments) handle rest = some found ↔
      ∃ segment more, rest = segment ++ more ∧ segment ≠ [] ∧ '/' ∉ segment ∧
        (∀ c, more.head? = some c → c = '/') ∧ matchSegments segments segment more = some found := by
  rw [matchSegments]
  constructor
  · intro matched
    split at matched
    · cases matched
    · rename_i some_
      refine ⟨_, _, (List.takeWhile_append_dropWhile).symm, by simpa using some_, ?_, ?_, matched⟩
      · intro mem
        simpa using List.mem_takeWhile_imp mem
      · intro c first
        have stop := List.head?_dropWhile_not (· != '/') rest
        rw [first] at stop
        simpa using stop
  · rintro ⟨segment, more, rfl, some_, noSlash, stop, matched⟩
    have inside : ∀ c ∈ segment, (c != '/') = true := by
      intro c mem
      simpa using ne_of_mem_of_not_mem mem noSlash
    have stops : ∀ c, more.head? = some c → (c != '/') = false := by
      intro c first
      simp [stop c first]
    simp only [Text.takeWhile_append_stop inside stops, Text.dropWhile_append_stop inside stops]
    rwa [if_neg (by simpa using some_)]

/-- A template without a handle fits its own text, with or without a line feed. -/
theorem matchSegments_fixed {path text : String} :
    matchSegments [.literal text.toList] [] path.toList = some found ↔
      (path = text ∨ path = text ++ "\n") ∧ found = [] := by
  have feed : "\n".toList = ['\n'] := rfl
  simp only [matchSegments_literal, matchSegments_nil, ← String.toList_inj, String.toList_append,
    feed]
  constructor
  · rintro ⟨more, split, rfl | rfl, rfl⟩
    · exact ⟨.inl (by simpa using split), rfl⟩
    · exact ⟨.inr split, rfl⟩
  · rintro ⟨same | same, rfl⟩
    · exact ⟨[], by simpa using same, .inl rfl, rfl⟩
    · exact ⟨_, same, .inr rfl, rfl⟩

end Segments

section Templates

variable {text : String} {route : Route}

theorem eq_iff_toList (s other : String) : s = other ↔ s.toList = other.toList :=
  String.toList_inj.symm

theorem isSegment_ofList {cs : List Char} : IsSegment (String.ofList cs) ↔ cs ≠ [] ∧ '/' ∉ cs := by
  rw [IsSegment, String.toList_ofList, ne_eq, ← String.toList_inj, String.toList_ofList]
  rfl

theorem match?_fixed {t : Template} {fixed : String}
    (literal : t.segments = [.literal fixed.toList]) :
    t.match? text = some route ↔ (text = fixed ∨ text = fixed ++ "\n") ∧ route = t.route "" := by
  rw [Template.match?, literal, Option.map_eq_some_iff]
  simp only [matchSegments_fixed]
  constructor
  · rintro ⟨found, ⟨same, rfl⟩, rfl⟩
    exact ⟨same, rfl⟩
  · rintro ⟨same, rfl⟩
    exact ⟨[], ⟨same, rfl⟩, rfl⟩

/-- Behind a handle that ends a path stands no line feed: the handle has taken it. -/
theorem match?_quotesByAuthor :
    Template.quotesByAuthor.match? text = some route ↔
      ∃ handle, IsSegment handle ∧ text = "/v1/author/" ++ handle ∧
        route = .quotesByAuthor handle := by
  simp only [Template.match?, Template.segments, Option.map_eq_some_iff, matchSegments_literal,
    matchSegments_handle, matchSegments_nil, eq_iff_toList text, String.toList_append]
  constructor
  · rintro ⟨found, ⟨_, split, segment, _, rfl, some_, noSlash, stop, rfl | rfl, rfl⟩, rfl⟩
    · refine ⟨String.ofList found, isSegment_ofList.2 ⟨some_, noSlash⟩, ?_, rfl⟩
      simpa using split
    · exact absurd (stop '\n' rfl) (by decide)
  · rintro ⟨handle, segment, same, rfl⟩
    obtain ⟨some_, noSlash⟩ := isSegment_ofList.1 (by rwa [String.ofList_toList])
    refine ⟨handle.toList, ⟨_, same, handle.toList, [], by simp, some_, noSlash, ?_, .inl rfl, rfl⟩, ?_⟩
    · simp
    · rw [String.ofList_toList, Template.route]

theorem match?_randomQuoteByAuthor :
    Template.randomQuoteByAuthor.match? text = some route ↔
      ∃ handle, IsSegment handle ∧ (text = "/v1/author/" ++ handle ++ "/random" ∨
        text = "/v1/author/" ++ handle ++ "/random" ++ "\n") ∧
          route = .randomQuoteByAuthor handle := by
  have feed : "\n".toList = ['\n'] := rfl
  simp only [Template.match?, Template.segments, Option.map_eq_some_iff, matchSegments_literal,
    matchSegments_handle, matchSegments_nil, eq_iff_toList text, String.toList_append, feed]
  constructor
  · rintro ⟨found, ⟨_, split, segment, _, rfl, some_, noSlash, -, end_, rfl, ends, rfl⟩, rfl⟩
    refine ⟨String.ofList found, isSegment_ofList.2 ⟨some_, noSlash⟩, ?_, rfl⟩
    obtain rfl | rfl := ends
    · exact .inl (by simpa using split)
    · exact .inr (by simpa using split)
  · rintro ⟨handle, segment, same, rfl⟩
    obtain ⟨some_, noSlash⟩ := isSegment_ofList.1 (by rwa [String.ofList_toList])
    obtain ⟨end_, ends, same⟩ : ∃ end_, (end_ = [] ∨ end_ = ['\n']) ∧
        text.toList = "/v1/author/".toList ++ (handle.toList ++ ("/random".toList ++ end_)) := by
      obtain same | same := same
      · exact ⟨[], .inl rfl, by simpa using same⟩
      · exact ⟨_, .inr rfl, by simpa using same⟩
    refine ⟨handle.toList, ⟨_, same, handle.toList, _, rfl, some_, noSlash, ?_, end_, rfl, ends, rfl⟩,
      ?_⟩
    · rintro c ⟨⟩
      rfl
    · rw [String.ofList_toList, Template.route]

/-- What a template fits leads to its route. -/
theorem leads_of_match? {t : Template} (found : t.match? text = some route) : Leads text route := by
  have fixed (f : Route) (plain : f.IsProper ∧ f.endsInHandle = false)
      (h : (text = f.path ∨ text = f.path ++ "\n") ∧ route = f) : Leads text route := by
    obtain ⟨same, rfl⟩ := h
    exact ⟨plain.1, same.imp_right fun feed => ⟨plain.2, feed⟩⟩
  cases t with
  | index => exact fixed .index ⟨trivial, rfl⟩ ((match?_fixed rfl).1 found)
  | randomQuote => exact fixed .randomQuote ⟨trivial, rfl⟩ ((match?_fixed rfl).1 found)
  | authors => exact fixed .authors ⟨trivial, rfl⟩ ((match?_fixed rfl).1 found)
  | tags => exact fixed .tags ⟨trivial, rfl⟩ ((match?_fixed rfl).1 found)
  | quotesByAuthor =>
    obtain ⟨handle, segment, same, rfl⟩ := match?_quotesByAuthor.1 found
    exact ⟨segment, .inl same⟩
  | randomQuoteByAuthor =>
    obtain ⟨handle, segment, same, rfl⟩ := match?_randomQuoteByAuthor.1 found
    exact ⟨segment, same.imp_right fun feed => ⟨rfl, feed⟩⟩

/-- The templates that are tried before those with a handle do not fit their paths. -/
theorem match?_beforeHandle (rest : String) :
    Template.index.match? ("/v1/author/" ++ rest) = none ∧
      Template.randomQuote.match? ("/v1/author/" ++ rest) = none := by
  constructor <;>
    simp [Template.match?, Template.segments, matchSegments, isEnd, List.isPrefixOf?]

theorem match?_quotesByAuthor_slash {rest : String} (slash : '/' ∈ rest.toList) :
    Template.quotesByAuthor.match? ("/v1/author/" ++ rest) = none := by
  refine Option.eq_none_iff_forall_ne_some.2 fun route found => ?_
  obtain ⟨handle, segment, same, -⟩ := match?_quotesByAuthor.1 found
  obtain rfl : rest = handle := (String.append_right_inj _).1 same
  exact segment.2 slash

/-- Among the templates the one of a route is the first that fits its paths. -/
theorem ofPath?_of_leads (leads : Leads text route) : ofPath? Template.all text = some route := by
  obtain ⟨proper, same⟩ := leads
  cases route with
  | index => obtain rfl | ⟨-, rfl⟩ := same <;> decide
  | randomQuote => obtain rfl | ⟨-, rfl⟩ := same <;> decide
  | authors => obtain rfl | ⟨-, rfl⟩ := same <;> decide
  | tags => obtain rfl | ⟨-, rfl⟩ := same <;> decide
  | quotesByAuthor handle =>
    obtain rfl : text = "/v1/author/" ++ handle := by simpa [endsInHandle, path] using same
    obtain ⟨index, randomQuote⟩ := match?_beforeHandle handle
    have found := match?_quotesByAuthor.2 ⟨handle, proper, rfl, rfl⟩
    simp only [ofPath?, Template.all, List.findSome?_cons, index, randomQuote, found]
  | randomQuoteByAuthor handle =>
    have fits : text = "/v1/author/" ++ handle ++ "/random" ∨
        text = "/v1/author/" ++ handle ++ "/random" ++ "\n" := same.imp_right And.right
    obtain ⟨rest, slash, whole⟩ : ∃ rest : String, '/' ∈ rest.toList ∧ text = "/v1/author/" ++ rest := by
      obtain rfl | rfl := fits
      · exact ⟨handle ++ "/random", by simp, by rw [String.append_assoc]⟩
      · exact ⟨handle ++ ("/random" ++ "\n"), by simp, by simp only [String.append_assoc]⟩
    have found := match?_randomQuoteByAuthor.2 ⟨handle, proper, fits, rfl⟩
    rw [whole] at found ⊢
    obtain ⟨index, randomQuote⟩ := match?_beforeHandle rest
    simp only [ofPath?, Template.all, List.findSome?_cons, index, randomQuote,
      match?_quotesByAuthor_slash slash, found]

theorem ofPath?_eq_some_iff : ofPath? Template.all text = some route ↔ Leads text route := by
  refine ⟨fun found => ?_, ofPath?_of_leads⟩
  obtain ⟨t, -, fits⟩ := List.exists_of_findSome?_eq_some found
  exact leads_of_match? fits

theorem ofPath?_eq_none_iff : ofPath? Template.all text = none ↔ ∀ route, ¬ Leads text route := by
  simp only [Option.eq_none_iff_forall_ne_some, ne_eq, ofPath?_eq_some_iff]

/-- Without a line feed at its end a path leads to a route only if it is published under it. -/
theorem leads_iff_of_noFeed (noFeed : text.toList.getLast? ≠ some '\n') :
    Leads text route ↔ route.IsProper ∧ text = route.path := by
  refine and_congr_right fun _ => or_iff_left ?_
  rintro ⟨-, rfl⟩
  simp at noFeed

end Templates

end Route

namespace Service

/-- Paths lead where they are published to lead, but for a line feed that a route skips at the end of
a path without a handle there. A request for a path that leads to a route is handed to it; one for any
other path, with or without a line feed, is told that nothing was found, under whatever method. -/
theorem routing (s : Service) (tried : s.templates = Route.Template.all) :
    (∀ path route, Route.ofPath? s.templates path = some route ↔
      route.IsProper ∧ (path = route.path ∨
        route.endsInHandle = false ∧ path = route.path ++ "\n")) ∧
    (∀ path : String, path.toList.getLast? ≠ some '\n' → ∀ route,
      Route.ofPath? s.templates path = some route ↔ route.IsProper ∧ path = route.path) ∧
    ∀ (database : Option Statements) (draw : Assembly.Draw) (r : Request),
      (∀ route, Route.ofPath? s.templates r.path = some route → r.method = "GET" →
        s.handle database draw r = s.handleRoute database draw r.query route) ∧
      (s.Sendable → r.Received →
        (∀ route : Route, route.IsProper → r.path ≠ route.path ∧ r.path ≠ route.path ++ "\n") →
        ∃ sent, (s.serve database draw r).response = some sent ∧ sent.status = 404 ∧
          sent.body = "\x7b\"error\":\"Not Found\",\"code\":404\x7d") := by
  rw [tried]
  refine ⟨fun path route => Route.ofPath?_eq_some_iff, fun path noFeed route => ?_,
    fun database draw r => ⟨fun route found get => ?_, fun sendable received unlike => ?_⟩⟩
  · rw [Route.ofPath?_eq_some_iff, Route.leads_iff_of_noFeed noFeed]
  · rw [handle, tried, found]
    exact if_pos get
  · have nowhere : Route.ofPath? Route.Template.all r.path = none := by
      apply Route.ofPath?_eq_none_iff.2
      rintro route ⟨proper, same | ⟨-, fed⟩⟩
      · exact (unlike route proper).1 same
      · exact (unlike route proper).2 fed
    obtain ⟨url, address⟩ := r.address_received received
    have refused : (s.handle database draw r).outcome = .error (.http 404 "Not Found" none) := by
      rw [handle, tried, nowhere]
    obtain ⟨sent, response, status, body, -⟩ :=
      serve_of_error sendable address refused answerable_noRoute
    exact ⟨sent, response, status, body⟩

/-- A handle with a line feed at its end, a slash too many, and a method that no route has. -/
theorem routing_handles :
    let s : Service := ⟨"Wisdom", "application/vnd.wisdom.v1+json", "/docs", Route.Template.all⟩
    let r : Request := ⟨"PUT", "/v1/author/ada/random/", "", none, "https", some ⟨"::1", 443⟩, none⟩
    s.templates = Route.Template.all ∧ s.Sendable ∧ r.Received ∧
      Route.ofPath? s.templates "/v1/author/ada\n" = some (.quotesByAuthor "ada\n") ∧
      (∀ route : Route, route.IsProper → r.path ≠ route.path ∧ r.path ≠ route.path ++ "\n") ∧
      ∃ sent, (s.serve none (Assembly.Draw.pick 0) r).response = some sent ∧ sent.status = 404 := by
  intro s r
  have sendable : s.Sendable := ⟨by decide, by decide⟩
  have received : r.Received := ⟨by decide, ⟨"::1", 443⟩, rfl, .literal (by decide)⟩
  obtain ⟨leads, -, requests⟩ := routing s rfl
  have nowhere : Route.ofPath? s.templates r.path = none := by decide
  have unlike (route : Route) (proper : route.IsProper) :
      r.path ≠ route.path ∧ r.path ≠ route.path ++ "\n" := by
    constructor
    · intro same
      exact absurd (nowhere.symm.trans ((leads _ route).2 ⟨proper, .inl same⟩)) nofun
    · intro fed
      have last := congrArg (fun path : String => path.toList.getLast?) fed
      simp [r] at last
  obtain ⟨sent, response, status, -⟩ :=
    (requests none (Assembly.Draw.pick 0) r).2 sendable received unlike
  refine ⟨rfl, sendable, received, ?_, unlike, sent, response, status⟩
  exact (leads _ (.quotesByAuthor "ada\n")).2 ⟨⟨by decide, by decide⟩, .inl rfl⟩

/-- The tags are served under a path that no route is published under. -/
theorem serve_lineFeed :
    let s : Service := ⟨"Wisdom", "application/vnd.wisdom.v1+json", "/docs", Route.Template.all⟩
    let r : Request := ⟨"GET", "/v1/tags\n", "", some "test", "http", some ⟨"test", 80⟩, none⟩
    let statements := Statements.onTables Tables.empty 0 []
    (∀ route : Route, r.path ≠ route.path) ∧ Route.ofPath? s.templates r.path = some .tags ∧
      ∃ sent, (s.serve (some statements) (Assembly.Draw.pick 0) r).response = some sent ∧
        sent.status = 200 ∧ sent.body = "[]" := by
  intro s r statements
  have sendable : s.Sendable := ⟨by decide, by decide⟩
  have received : r.Received :=
    ⟨by decide, ⟨"test", 80⟩, rfl, .name (by decide) (List.all_eq_true.1 (by decide))⟩
  obtain ⟨url, address⟩ := r.address_received received
  have handled : (s.handle (some statements) (Assembly.Draw.pick 0) r).outcome =
      .ok ⟨200, [("content-length", "2"), ("content-type", jsonContentType)], "[]"⟩ := by
    cbv
  refine ⟨fun route same => ?_, by decide, ?_⟩
  · have listed := congrArg String.toList same
    cases route with
    | quotesByAuthor handle => simp [r, Route.path] at listed
    | randomQuoteByAuthor handle => simp [r, Route.path] at listed
    | _ => revert listed; decide
  · obtain ⟨sent, response, status, body, -⟩ := serve_of_ok sendable address handled rfl
    exact ⟨sent, response, status, body⟩

end Service
end QuoteService.Http
