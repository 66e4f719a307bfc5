import QuoteService.Migration.Initial
import QuoteService.Migration.Style

/-! Migration scripts: statements as text, in the style of a dialect, line by line. -/
namespace QuoteService.Migration
open Schema

namespace Script

/-- The lines of a statement, with what ends it and what follows it. -/
def ended (style : Style) : List String → List String
  | [] => style.separator
  | [last] => (last ++ style.terminator) :: style.separator
  | line :: rest => line :: ended style rest

/-- A single integer key without a reference numbers its rows itself. -/
def countsRows (t : Table) (c : Column) : Bool :=
  c.primaryKey && c.reference.isNone && c.type == .integer &&
    (t.columns.filter (·.primaryKey)).length == 1

def columnText (style : Style) (t : Table) (c : Column) : String :=
  let (type, suffix) := if countsRows t c then style.counting else (style.typeName c.type, "")
  c.name ++ " " ++ type ++ (if c.nullable then style.nullable else " NOT NULL") ++ suffix

def keyText (t : Table) : String :=
  "PRIMARY KEY (" ++ ", ".intercalate ((t.columns.filter (·.primaryKey)).map (·.name)) ++ ")"

def referenceText (c : Column) (r : Reference) : String :=
  "FOREIGN KEY(" ++ c.name ++ ") REFERENCES " ++ r.table ++ " (" ++ r.column ++ ")" ++
    r.onDelete.elim "" fun action => " ON DELETE " ++ action

/-- Items on indented lines, with a comma after each but the last. -/
def itemLines : List String → List String
  | [] => []
  | [last] => ["    " ++ last]
  | item :: rest => ("    " ++ item ++ ",") :: itemLines rest

def tableLines (style : Style) (name : String) (items : List String) : List String :=
  ended style (("CREATE TABLE " ++ name ++ " (") :: itemLines items ++ [")"])

def createTable (style : Style) (t : Table) : List String :=
  tableLines style t.name (t.columns.map (columnText style t) ++ [keyText t] ++
    t.columns.filterMap fun c => c.reference.map (referenceText c))

def statement (style : Style) : Statement → List String
  | .createTable t => createTable style t
  | .createIndex i =>
    ended style ["CREATE " ++ (if i.unique then "UNIQUE " else "") ++ "INDEX " ++ i.name ++ " ON " ++
      i.table ++ " (" ++ ", ".intercalate i.columns ++ ")"]
  | .dropTable name => ended style ["DROP TABLE " ++ name]
  | .dropIndex name table =>
    ended style ["DROP INDEX " ++ name ++ (if style.indexOnTable then " ON " ++ table else "")]

def statements (style : Style) (list : List Statement) : List String :=
  list.flatMap (statement style)

/-- The table that holds the current revision. -/
def versionTable (style : Style) : List String :=
  tableLines style "alembic_version"
    ["version_num " ++ style.typeName (.varchar 32) ++ " NOT NULL",
      "CONSTRAINT alembic_version_pkc PRIMARY KEY (version_num)"]

def insertVersion (style : Style) : List String :=
  ended style ["INSERT INTO alembic_version (version_num)" ++ style.insertion.1 ++ " VALUES ('" ++
    Initial.revision ++ "')" ++ style.insertion.2]

def deleteVersion (style : Style) : List String :=
  ended style
    ["DELETE FROM alembic_version WHERE alembic_version.version_num = '" ++ Initial.revision ++ "'"]

/-- The step from nothing to the first revision. -/
def upgrade (style : Style) : List String :=
  versionTable style ++ ["-- Running upgrade  -> " ++ Initial.revision] ++
    statements style Initial.upgrade ++ insertVersion style

/-- The step back. -/
def downgrade (style : Style) : List String :=
  ["-- Running downgrade " ++ Initial.revision ++ " ->"] ++
    statements style Initial.downgrade ++ deleteVersion style

end Script
end QuoteService.Migration
