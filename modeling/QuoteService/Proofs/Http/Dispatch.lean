import QuoteService.Proofs.Http.Identity
import QuoteService.Proofs.Http.Routing
import QuoteService.Proofs.Http.Transport

/-! Where requests go. Templates are tried in order, and twice: for one that takes path and method, then
for one that takes the path alone. No path fits two of them, so their order does not matter. -/
namespace QuoteService.Http

namespace Route

/-- The methods that the routes of a template are for. -/
def Template.methods : Template → List String := fun _ => ["GET"]

/-- The template that a route is found by. -/
def template : Route → Template
  | .index => .index
  | .randomQuote => .randomQuote
  | .quotesByAuthor _ => .quotesByAuthor
  | .randomQuoteByAuthor _ => .randomQuoteByAuthor
  | .authors => .authors
  | .tags => .tags

/-- Where a request goes: to a route, or to one that is for other methods, or nowhere. -/
inductive Dispatch where
  | handed (route : Route)
  | refused (methods : List String)
  | lost
  deriving DecidableEq, Repr

/-- The first template that has the method and fits the path takes a request. If there is none, the
first that fits the path refuses it. -/
def dispatch (templates : List Template) (method path : String) : Dispatch :=
  match templates.findSome? fun t => if method ∈ t.methods then t.match? path else none with
  | some route => .handed route
  | none =>
    match templates.find? fun t => (t.match? path).isSome with
    | some t => .refused t.methods
    | none => .lost

theorem Template.mem_all (t : Template) : t ∈ Template.all := by
  cases t <;> decide

section Order

variable {templates others : List Template} {path : String} {route : Route} {t u : Template}

theorem template_of_match? (found : t.match? path = some route) : route.template = t := by
  obtain ⟨handle, -, rfl⟩ := Option.map_eq_some_iff.1 found
  cases t <;> rfl

/-- At most one template fits a path. -/
theorem match?_unique {other : Route} (found : t.match? path = some route)
    (again : u.match? path = some other) : t = u := by
  have first := ofPath?_of_leads (leads_of_match? found)
  have second := ofPath?_of_leads (leads_of_match? again)
  obtain rfl : route = other := Option.some.inj (first.symm.trans second)
  rw [← template_of_match? found, template_of_match? again]

theorem ofPath?_eq_some_iff_exists :
    ofPath? templates path = some route ↔ ∃ t ∈ templates, t.match? path = some route := by
  constructor
  · exact List.exists_of_findSome?_eq_some
  · rintro ⟨t, mem, found⟩
    cases first : ofPath? templates path with
    | none =>
      have unfit := List.findSome?_eq_none_iff.1 first t mem
      rw [found] at unfit
      cases unfit
    | some other =>
      obtain ⟨u, -, again⟩ := List.exists_of_findSome?_eq_some first
      obtain rfl := match?_unique found again
      rw [← again, found]

/-- A path leads to the same route in whatever order the templates are tried. -/
theorem ofPath?_perm (reordered : templates.Perm others) (path : String) :
    ofPath? templates path = ofPath? others path := by
  ext route
  simp only [ofPath?_eq_some_iff_exists, reordered.mem_iff]

end Order

section Methods

variable {templates : List Template} {method path : String} {route : Route}

theorem mem_methods (t : Template) : method ∈ t.methods ↔ method = "GET" := List.mem_singleton

/-- All templates have the same methods, so it is enough to look for the path. -/
theorem dispatch_of_get (found : ofPath? templates path = some route) (get : method = "GET") :
    dispatch templates method path = .handed route := by
  simp only [dispatch, mem_methods, if_pos get]
  change (match ofPath? templates path with | some route => _ | none => _) = _
  rw [found]

theorem dispatch_of_other (found : ofPath? templates path = some route) (other : method ≠ "GET") :
    dispatch templates method path = .refused ["GET"] := by
  have untaken : templates.findSome? (fun _ => (none : Option Route)) = none := by simp
  obtain ⟨t, mem, fits⟩ := List.exists_of_findSome?_eq_some found
  have fitting : (templates.find? fun t => (t.match? path).isSome).isSome :=
    List.find?_isSome.2 ⟨t, mem, Option.isSome_of_eq_some fits⟩
  obtain ⟨u, first⟩ := Option.isSome_iff_exists.1 fitting
  simp only [dispatch, mem_methods, if_neg other, untaken, first]
  rfl

theorem dispatch_of_none (missing : ofPath? templates path = none) (method : String) :
    dispatch templates method path = .lost := by
  have unfit := List.findSome?_eq_none_iff.1 missing
  have untaken : templates.findSome?
      (fun t => if method ∈ t.methods then t.match? path else none) = none := by
    rw [List.findSome?_eq_none_iff]
    intro t mem
    split
    · exact unfit t mem
    · rfl
  have unrefused : templates.find? (fun t => (t.match? path).isSome) = none := by
    simpa [List.find?_eq_none] using unfit
  rw [dispatch, untaken, unrefused]

end Methods

end Route

namespace Service

variable {s : Service} {database : Option Statements} {draw : Assembly.Draw} {r : Request}
  {a : Address} {route : Route}

/-- What a service makes of a request that goes there. -/
def handleDispatch (s : Service) (database : Option Statements) (draw : Assembly.Draw)
    (query : String) : Route.Dispatch → Handled
  | .handed route => s.handleRoute database draw query route
  | .refused methods =>
    ⟨.error (.http 405 "Method Not Allowed" (some [("Allow", ", ".intercalate methods)])), []⟩
  | .lost => ⟨.error (.http 404 "Not Found" none), []⟩

theorem handle_of_none (missing : Route.ofPath? s.templates r.path = none) :
    s.handle database draw r = ⟨.error (.http 404 "Not Found" none), []⟩ := by
  rw [handle, missing]

section Found

variable (found : Route.ofPath? s.templates r.path = some route)

include found

theorem handle_of_get (get : r.method = "GET") :
    s.handle database draw r = s.handleRoute database draw r.query route := by
  rw [handle, found]
  exact if_pos get

theorem handle_of_other (other : r.method ≠ "GET") : s.handle database draw r =
    ⟨.error (.http 405 "Method Not Allowed" (some [("Allow", "GET")])), []⟩ := by
  rw [handle, found]
  exact if_neg other

end Found

theorem handle_eq_handleDispatch (s : Service) (database : Option Statements)
    (draw : Assembly.Draw) (r : Request) : s.handle database draw r =
      s.handleDispatch database draw r.query (Route.dispatch s.templates r.method r.path) := by
  cases found : Route.ofPath? s.templates r.path with
  | none =>
    rw [handle_of_none found, Route.dispatch_of_none found]
    rfl
  | some route =>
    by_cases get : r.method = "GET"
    · rw [handle_of_get found get, Route.dispatch_of_get found get]
      rfl
    · rw [handle_of_other found get, Route.dispatch_of_other found get]
      rfl

/-- Services that send the same fixed fields differ by their handlers at most. -/
theorem serve_eq_of_handle_eq {other : Service} (fixed : other.fixed = s.fixed)
    (handled : other.handle database draw r = s.handle database draw r) :
    other.serve database draw r = s.serve database draw r := by
  unfold serve lastResort
  rw [handled, fixed]

/-- The answer to a wrong method names the one that a route has. -/
theorem response_of_other (sendable : s.Sendable) (address : r.address = .ok a)
    (handled : s.handle database draw r =
      ⟨.error (.http 405 "Method Not Allowed" (some [("Allow", "GET")])), []⟩) :
    ∃ sent, (s.serve database draw r).response = some sent ∧ sent.status = 405 ∧
      sent.body = "\x7b\"error\":\"Method Not Allowed\",\"code\":405\x7d" ∧
      Header.values "allow" sent.headers = ["GET"] := by
  have raised := congrArg Handled.outcome handled
  have own : [("Allow", "GET")].mapM (fun h => Header.ofPair h.1 h.2) = .ok [("allow", "GET")] := rfl
  obtain ⟨added, names, response⟩ := response_http sendable address raised (by decide) own
  have silent : Header.hasName "allow" added = false := by
    have other : "allow" ∉ Header.settledNames := by decide
    simp only [Header.hasName, List.any_eq_false, beq_iff_eq]
    intro h mem same
    exact other (same ▸ names h mem)
  refine ⟨_, response, rfl, rfl, ?_⟩
  rw [Response.stamped, Header.values_put_other (by decide), Header.values_put_other (by decide),
    Header.values_put_other (by decide), Header.values_append, Header.values_of_not_hasName silent]
  rfl

theorem response_of_none (sendable : s.Sendable) (address : r.address = .ok a)
    (handled : s.handle database draw r = ⟨.error (.http 404 "Not Found" none), []⟩) :
    ∃ sent, (s.serve database draw r).response = some sent ∧ sent.status = 404 ∧
      sent.body = "\x7b\"error\":\"Not Found\",\"code\":404\x7d" := by
  obtain ⟨sent, response, status, body, -⟩ :=
    serve_of_error sendable address (congrArg Handled.outcome handled) answerable_noRoute
  exact ⟨sent, response, status, body⟩

/-- A service that tries its templates in any order is the same to every request. It follows the rule
of two searches, and no path fits two templates: what fits one goes to its route under GET and is told
under every other method, HEAD and OPTIONS too, that GET is allowed; what fits none is not found, under
any method. -/
theorem serve_reordered (settings : Settings) {templates : List Route.Template}
    (reordered : templates.Perm Route.Template.all) (database : Option Statements)
    (draw : Assembly.Draw) (r : Request) :
    let s := Service.ofSettings settings
    let other : Service := { s with templates := templates }
    other.serve database draw r = s.serve database draw r ∧
    other.handle database draw r =
      other.handleDispatch database draw r.query (Route.dispatch templates r.method r.path) ∧
    (∀ t u : Route.Template, (t.match? r.path).isSome → (u.match? r.path).isSome → t = u) ∧
    (∀ (t : Route.Template) (route : Route), t.match? r.path = some route → route.template = t ∧
      (r.method = "GET" →
        other.handle database draw r = s.handleRoute database draw r.query route ∧
        (r.Received → (other.serve database draw r).response =
          s.reply? (s.handleRoute database draw r.query route).outcome)) ∧
      (r.method ≠ "GET" →
        other.handle database draw r =
          ⟨.error (.http 405 "Method Not Allowed" (some [("Allow", "GET")])), []⟩ ∧
        (s.Sendable → r.Received → ∃ sent, (other.serve database draw r).response = some sent ∧
          sent.status = 405 ∧
          sent.body = "\x7b\"error\":\"Method Not Allowed\",\"code\":405\x7d" ∧
          Header.values "allow" sent.headers = ["GET"]))) ∧
    ((∀ t : Route.Template, t.match? r.path = none) →
      other.handle database draw r = ⟨.error (.http 404 "Not Found" none), []⟩ ∧
      (s.Sendable → r.Received → ∃ sent, (other.serve database draw r).response = some sent ∧
        sent.status = 404 ∧ sent.body = "\x7b\"error\":\"Not Found\",\"code\":404\x7d")) := by
  intro s other
  have same (path : String) :
      Route.ofPath? other.templates path = Route.ofPath? s.templates path :=
    Route.ofPath?_perm reordered path
  have handled : other.handle database draw r = s.handle database draw r := by
    unfold handle
    rw [same]
    rfl
  have unchanged : other.serve database draw r = s.serve database draw r :=
    serve_eq_of_handle_eq rfl handled
  refine ⟨unchanged, handle_eq_handleDispatch other database draw r, fun t u first second => ?_,
    fun t route fits => ?_, fun unfit => ?_⟩
  · obtain ⟨found, first⟩ := Option.isSome_iff_exists.1 first
    obtain ⟨again, second⟩ := Option.isSome_iff_exists.1 second
    exact Route.match?_unique first second
  · have found : Route.ofPath? other.templates r.path = some route :=
      Route.ofPath?_eq_some_iff_exists.2 ⟨t, reordered.mem_iff.2 (Route.Template.mem_all t), fits⟩
    refine ⟨Route.template_of_match? fits, fun get => ?_, fun wrong => ?_⟩
    · have handed : other.handle database draw r = s.handleRoute database draw r.query route :=
        handle_of_get found get
      refine ⟨handed, fun received => ?_⟩
      obtain ⟨url, address⟩ := r.address_received received
      rw [unchanged, response_serve address, ← handled, handed]
    · have refused : other.handle database draw r =
          ⟨.error (.http 405 "Method Not Allowed" (some [("Allow", "GET")])), []⟩ :=
        handle_of_other found wrong
      refine ⟨refused, fun sendable received => ?_⟩
      obtain ⟨url, address⟩ := r.address_received received
      exact response_of_other ⟨sendable.serverName, sendable.mediaType⟩ address refused
  · have missing : Route.ofPath? other.templates r.path = none :=
      List.findSome?_eq_none_iff.2 fun t _ => unfit t
    refine ⟨handle_of_none missing, fun sendable received => ?_⟩
    obtain ⟨url, address⟩ := r.address_received received
    exact response_of_none ⟨sendable.serverName, sendable.mediaType⟩ address
      (handle_of_none missing)

/-- Templates from the last to the first, and a handle with the name of a template's last segment. -/
theorem serve_reordered_backward :
    let settings : Settings := .naming "Wisdom" "wisdom.V1"
    let s := Service.ofSettings settings
    let templates := Route.Template.all.reverse
    let other : Service := { s with templates := templates }
    let ask (method path : String) : Request :=
      ⟨method, path, "callback=f", none, "http", some ⟨"::1", 8000⟩, none⟩
    let draw := Assembly.Draw.pick 0
    let path := "/v1/author/random/random"
    templates.Perm Route.Template.all ∧ s.Sendable ∧ (ask "HEAD" path).Received ∧
      Route.Template.randomQuoteByAuthor.match? path = some (.randomQuoteByAuthor "random") ∧
      other.handle none draw (ask "GET" path) =
        s.handleRoute none draw "callback=f" (.randomQuoteByAuthor "random") ∧
      (∃ sent, (other.serve none draw (ask "HEAD" path)).response = some sent ∧
        sent.status = 405 ∧ Header.values "allow" sent.headers = ["GET"]) ∧
      (∀ t : Route.Template, t.match? "/v1/author/random/" = none) ∧
      ∃ sent, (other.serve none draw (ask "OPTIONS" "/v1/author/random/")).response = some sent ∧
        sent.status = 404 := by
  intro settings s templates other ask draw path
  have reordered : templates.Perm Route.Template.all := List.reverse_perm _
  have sendable : s.Sendable := ⟨by decide, by decide⟩
  have received (method path : String) : (ask method path).Received :=
    ⟨rfl, ⟨"::1", 8000⟩, rfl, .literal (by decide)⟩
  have fits : Route.Template.randomQuoteByAuthor.match? path =
      some (.randomQuoteByAuthor "random") := by
    decide
  have unfit (t : Route.Template) : t.match? "/v1/author/random/" = none := by
    cases t <;> decide
  have law (method path : String) := serve_reordered settings reordered none draw (ask method path)
  obtain ⟨-, -, -, known, -⟩ := law "GET" path
  obtain ⟨handed, -⟩ := (known _ _ fits).2.1 rfl
  obtain ⟨-, -, -, known, -⟩ := law "HEAD" path
  obtain ⟨-, answer⟩ := (known _ _ fits).2.2 (by decide)
  obtain ⟨sent, response, status, -, allow⟩ := answer sendable (received "HEAD" path)
  obtain ⟨-, -, -, -, unknown⟩ := law "OPTIONS" "/v1/author/random/"
  obtain ⟨lost, answered, missing, -⟩ := (unknown unfit).2 sendable (received _ _)
  exact ⟨reordered, sendable, received _ _, fits, handed, ⟨sent, response, status, allow⟩, unfit, lost,
    answered, missing⟩

end Service
end QuoteService.Http
