import QuoteService.Database.Dialect
import QuoteService.Schema.Catalog

/-! How the dialects write what a migration does. -/
namespace QuoteService.Migration
open Schema Number

/-- The words of a dialect. `opening` and `closing` stand around a whole script, and a statement ends
with `terminator` and is followed by the lines of `separator`. -/
structure Style where
  opening : List String
  closing : List String
  terminator : String
  separator : List String
  /-- The name of a type. -/
  typeName : ColumnType → String
  /-- The type of a column that numbers its rows, and what follows its constraints. -/
  counting : String × String
  /-- What is said of a column that may be null. -/
  nullable : String
  /-- Whether the statement that drops an index names the table. -/
  indexOnTable : Bool
  /-- What stands around the values of an inserted revision, to read it back. -/
  insertion : String × String

namespace Style

/-- No transaction around a script, and nothing that only some dialects have. -/
def plain : Style where
  opening := []
  closing := []
  terminator := ";"
  separator := []
  typeName := ColumnType.name
  counting := ("INTEGER", "")
  nullable := ""
  indexOnTable := false
  insertion := ("", "")

def postgresql : Style := { plain with
  opening := ["BEGIN;"]
  closing := ["COMMIT;"]
  counting := ("SERIAL", "")
  insertion := ("", " RETURNING alembic_version.version_num") }

def sqlite : Style := { plain with insertion := ("", " RETURNING version_num") }

def mysql : Style := { plain with
  counting := ("INTEGER", " AUTO_INCREMENT")
  indexOnTable := true }

def mssql : Style := { plain with
  opening := ["BEGIN TRANSACTION;"]
  closing := ["COMMIT;", "GO"]
  separator := ["GO"]
  counting := ("INTEGER", " IDENTITY")
  nullable := " NULL"
  indexOnTable := true
  insertion := (" OUTPUT inserted.version_num", "") }

def oracleType : ColumnType → String
  | .integer => "INTEGER"
  | .text => "CLOB"
  | .varchar n => "VARCHAR2(" ++ integerText n ++ " CHAR)"

def oracle : Style := { plain with
  terminator := ""
  separator := ["/"]
  typeName := oracleType
  insertion := ("", " RETURNING alembic_version.version_num INTO :ret_0") }

def ofDialect : Dialect → Style
  | .postgresql => postgresql
  | .sqlite => sqlite
  | .mysql | .mariadb => mysql
  | .mssql => mssql
  | .oracle => oracle

end Style
end QuoteService.Migration
