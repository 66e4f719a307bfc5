import QuoteService.Schema.Catalog

/-! Statements that change a catalog. -/
namespace QuoteService.Migration
open Schema

inductive Statement where
  | createTable (table : Table)
  | createIndex (index : Index)
  | dropTable (name : String)
  | dropIndex (name table : String)
  deriving DecidableEq, Repr

namespace Statement

def refused {α : Type} (message : String) : Except Failure α :=
  .error (.fault .operational (some message))

/-- Executes a statement. Tables and indexes share their names, and a table takes its indexes with
it. -/
def apply (naming : Naming) (c : Catalog) : Statement → Except Failure Catalog
  | .createTable t =>
    if c.hasTable naming t.name then refused ("table " ++ t.name ++ " already exists")
    else if c.hasIndex naming t.name then
      refused ("there is already an index named " ++ t.name)
    else .ok { c with tables := c.tables ++ [t] }
  | .createIndex i =>
    if !c.hasTable naming i.table then refused ("no such table: main." ++ i.table)
    else if c.hasTable naming i.name then refused ("there is already a table named " ++ i.name)
    else if c.hasIndex naming i.name then refused ("index " ++ i.name ++ " already exists")
    else .ok { c with indexes := c.indexes ++ [i] }
  | .dropTable name =>
    if !c.hasTable naming name then refused ("no such table: " ++ name)
    else .ok ⟨c.tables.filter fun t => naming t.name ≠ naming name,
      c.indexes.filter fun i => naming i.table ≠ naming name⟩
  | .dropIndex name _ =>
    if !c.hasIndex naming name then refused ("no such index: " ++ name)
    else .ok { c with indexes := c.indexes.filter fun i => naming i.name ≠ naming name }

end Statement

/-- Executes statements up to the first that fails; what was done before it stays. -/
def execute (naming : Naming) (c : Catalog) : List Statement → Catalog × Except Failure Unit
  | [] => (c, .ok ())
  | s :: rest =>
    match s.apply naming c with
    | .ok c => execute naming c rest
    | .error failure => (c, .error failure)

end QuoteService.Migration
