import Mathlib.Data.List.Perm.Basic
import QuoteService.Proofs.Database.Fault

/-! What a client learns of a failed statement: that there was a failure, and nothing else. Failures of
the database are answered on the inner way, where the fixed fields are stamped on, and all others by
the last resort, which starts from these fields; the responses differ in the order of fields alone. -/
namespace QuoteService.Http
open Number
open scoped List

/-- Responses that differ in the order of their fields alone. -/
structure Response.Alike (first second : Response) : Prop where
  status : first.status = second.status
  body : first.body = second.body
  headers : first.headers.Perm second.headers

/-- No plain failure has an answer of its own. -/
theorem answered?_plain {f : Failure} (plain : f.IsPlain) : answered? f = none := by
  cases f with
  | service e => exact plain.elim
  | http status detail headers => exact plain.elim
  | _ => rfl

namespace Service

variable {s : Service} {database : Option Statements} {draw : Assembly.Draw} {r : Request}
  {a : Address} {f : Failure}

/-- An internal failure that has an answer of its own is answered as by the last resort. -/
theorem serve_internal (sendable : s.Sendable) (address : r.address = .ok a) {tag : String}
    {cause : Option Failure} {category : Category}
    (handled : (s.handle database draw r).outcome =
      .error (.service (.internalFailure tag cause category))) :
    ∃ sent, (s.serve database draw r).response = some sent ∧ sent.Alike s.lastResponse := by
  have bodied : Response.isBodiless 500 = false := by decide
  have short : Json.IsShort 500 := by decide
  have answer : Response.ofError (ServiceError.internalFailure tag cause category) [] = .ok _ :=
    (Response.ofError_eq short []).trans
      (Response.make_eq bodied (by rfl) (by rfl) jsonContentType _)
  -- the length and the type come first here, and last there
  have order (length type server media : Header) :
      [length, type, server, media].Perm [server, media, type, length] :=
    calc [length, type] ++ [server, media]
      _ ~ [server, media] ++ [length, type] := List.perm_append_comm
      _ ~ [server, media, type, length] := .cons _ (.cons _ (.swap _ _ _))
  rw [serve, address]
  simp only [handled, recover, answered?, answer, Response.stamp_eq sendable]
  exact ⟨_, rfl, rfl, rfl, order _ _ _ _⟩

theorem serve_unanswered (sendable : s.Sendable) (address : r.address = .ok a)
    (handled : (s.handle database draw r).outcome = .error f) (unanswered : answered? f = none) :
    (s.serve database draw r).response = some s.lastResponse := by
  rw [serve, address]
  simp only [handled, recover, unanswered]
  exact response_lastResort sendable _ _ f

/-- Only what has an address gets as far as the database. -/
theorem address_of_statements {statements : Statements} {position : Nat}
    (reached : position < (s.serve (some statements) draw r).statements.length) :
    ∃ a, r.address = .ok a := by
  cases address : r.address with
  | ok a => exact ⟨a, rfl⟩
  | error f =>
    rw [serve, address] at reached
    exact absurd reached (Nat.not_lt_zero _)

/-- Whatever the failure and wherever it strikes, the response is that of the last resort, up to the
order of its fields. -/
theorem serve_failingAt_alike (sendable : s.Sendable) {statements : Statements} {position : Nat}
    (plain : f.IsPlain)
    (reached : position < (s.serve (some statements) draw r).statements.length) :
    ∃ sent, (s.serve (some (statements.failingAt position f)) draw r).response = some sent ∧
      sent.Alike s.lastResponse := by
  obtain ⟨a, address⟩ := address_of_statements reached
  obtain ⟨plan, handled⟩ | ⟨nothing, idle, handled⟩ := handle_cases s draw r
  · rw [statements_serve address (handled statements)] at reached
    have run := Plan.run_cut_within plan (cutAt_failingAt statements position f) reached
    generalize (plan.run (Store.repository statements)).lookups[position] = q at run
    have failed : (s.handle (some (statements.failingAt position f)) draw r).outcome =
        .error (Store.reported q f) := by
      rw [handled, inSession, Session.outcome_bracket, execute, run]
      rfl
    by_cases storage : f.isStorage
    · rw [Store.reported, if_pos storage] at failed
      exact serve_internal sendable address failed
    · rw [Store.reported, if_neg storage] at failed
      exact ⟨_, serve_unanswered sendable address failed (answered?_plain plain), rfl, rfl, .refl _⟩
  · rw [Exchange.statements, events_serve address, handled, idle] at reached
    exact absurd reached (Nat.not_lt_zero _)

/-- Two failures at two statements of a request cannot be told apart by their responses: both are the
generic error, with the same body to the byte and the same fields. -/
theorem failures_indistinguishable (s : Service) (sendable : s.Sendable) (statements : Statements)
    (draw : Assembly.Draw) (r : Request) {first second : Nat} {e f : Failure}
    (plain : e.IsPlain) (other : f.IsPlain) :
    let clean := s.serve (some statements) draw r
    first < clean.statements.length → second < clean.statements.length →
      ∃ a b, (s.serve (some (statements.failingAt first e)) draw r).response = some a ∧
        (s.serve (some (statements.failingAt second f)) draw r).response = some b ∧
        a.status = 500 ∧ b.status = 500 ∧ a.body = b.body ∧ a.headers.Perm b.headers := by
  intro clean one two
  obtain ⟨a, answer, same⟩ := serve_failingAt_alike sendable plain one
  obtain ⟨b, reply, alike⟩ := serve_failingAt_alike sendable other two
  exact ⟨a, b, answer, reply, same.status, alike.status, same.body.trans alike.body.symm,
    same.headers.trans alike.headers.symm⟩

/-- The author's row cannot be read, or a bug strikes at the first tag: the client sees the same. -/
theorem failures_indistinguishable_labelled :
    let statements := Statements.onTables Tables.labelled 0 []
    let e : Failure := .fault .operational (some "disk I/O error")
    let f : Failure := .fault .runtime (some "no such handler")
    let s : Service := ⟨"Wisdom", "wisdom.V1", "/docs", Route.Template.all⟩
    let r := Tables.labelledRequest
    let answered (position : Nat) (failure : Failure) :=
      (s.serve (some (statements.failingAt position failure)) (Assembly.Draw.pick 0) r).response
    s.Sendable ∧ e.IsPlain ∧ f.IsPlain ∧
      3 < (s.serve (some statements) (Assembly.Draw.pick 0) r).statements.length ∧
      ∃ a b, answered 0 e = some a ∧ answered 3 f = some b ∧
        a.status = 500 ∧ b.status = 500 ∧ a.body = b.body ∧ a.headers.Perm b.headers := by
  intro statements e f s r answered
  have sendable : s.Sendable := ⟨by decide, by decide⟩
  have reached : 3 < (s.serve (some statements) (Assembly.Draw.pick 0) r).statements.length :=
    Tables.served_labelled rfl
  exact ⟨sendable, trivial, trivial, reached,
    failures_indistinguishable s sendable statements (Assembly.Draw.pick 0) r trivial trivial
      (by omega) reached⟩

end Service
end QuoteService.Http
