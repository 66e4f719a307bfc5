import QuoteService.Database.Tables

/-! The store: the repository over a database. Each accessor executes one statement; failures of the
database layer become internal failures tagged with the accessor, all others pass unchanged. -/
namespace QuoteService

/-- What executing the statement of an accessor gives, after a number of earlier statements. -/
abbrev Statements := Nat → (q : Lookup) → Except Failure q.Answer

namespace Store

/-- A failed statement as the store reports it. -/
def reported (question : Lookup) (failure : Failure) : Failure :=
  if failure.isStorage then
    .service (.internalFailure ("SqlQuoteStore." ++ question.name) (some failure) .database)
  else failure

def repository (statements : Statements) : Repository :=
  fun n q => (statements n q).mapError (reported q)

end Store

namespace Statements

/-- The same statements, but not for keys that a database does not take. -/
def checked (statements : Statements) : Statements :=
  fun n q => match q.key?.bind Key.refusal? with
    | some failure => .error failure
    | none => statements n q

/-- Statements on tables, some of which fail as told. -/
def onTables (tables : Tables) (draw : Nat) (faults : Repository.Faults) : Statements :=
  Repository.withFaults faults (checked (Repository.steady (tables.answer draw)))

/-- Statements on a database without tables. -/
def withoutTables : Statements :=
  fun _ q => .error (.fault .operational
    (some ("(sqlite3.OperationalError) no such table: " ++ Tables.tableOf q)))

/-- The same statements, but the one in a given position fails. -/
def failingAt (position : Nat) (failure : Failure) (statements : Statements) : Statements :=
  fun n q => if n = position then .error failure else statements n q

end Statements
end QuoteService
