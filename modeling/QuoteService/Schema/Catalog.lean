import QuoteService.Failure

/-! Catalogs: the tables and indexes of a database, without their rows. -/
namespace QuoteService.Schema
open Number Text

inductive ColumnType where
  | integer
  | text
  | varchar (length : Nat)
  deriving DecidableEq, Repr

def ColumnType.name : ColumnType → String
  | .integer => "INTEGER"
  | .text => "TEXT"
  | .varchar n => "VARCHAR(" ++ integerText n ++ ")"

/-- A reference to a column of a table, and what happens to a row when the one it refers to goes. -/
structure Reference where
  table : String
  column : String
  onDelete : Option String
  deriving DecidableEq, Repr

structure Column where
  name : String
  type : ColumnType
  nullable : Bool
  primaryKey : Bool
  reference : Option Reference
  deriving DecidableEq, Repr

namespace Column

/-- A column of a primary key. -/
def key (name : String) (reference : Option Reference) : Column :=
  ⟨name, .integer, false, true, reference⟩

/-- A column that must have a value. -/
def required (name : String) (type : ColumnType) : Column := ⟨name, type, false, false, none⟩

/-- A column that may be null. -/
def optional (name : String) (type : ColumnType) : Column := ⟨name, type, true, false, none⟩

end Column

structure Table where
  name : String
  columns : List Column
  deriving DecidableEq, Repr

structure Index where
  name : String
  table : String
  columns : List String
  unique : Bool
  deriving DecidableEq, Repr

structure Catalog where
  tables : List Table
  indexes : List Index
  deriving DecidableEq, Repr

/-- How an engine compares names: it takes them for the same if this makes them equal. -/
abbrev Naming := String → String

/-- Names are the same if they are equal. -/
def Naming.exact : Naming := id

/-- Letters of ASCII are compared without their case. -/
def Naming.caseless : Naming := String.toLower

namespace Catalog

def empty : Catalog := ⟨[], []⟩

def table? (c : Catalog) (name : String) : Option Table := c.tables.find? fun t => t.name == name

/-- Whether an engine finds a table by a name. -/
def hasTable (c : Catalog) (naming : Naming) (name : String) : Bool :=
  c.tables.any fun t => naming t.name == naming name

/-- Whether an engine finds an index by a name. -/
def hasIndex (c : Catalog) (naming : Naming) (name : String) : Bool :=
  c.indexes.any fun i => naming i.name == naming name

def indexesOf (c : Catalog) (table : String) : List Index :=
  c.indexes.filter fun i => i.table == table

/-- The table of a name that must be there. -/
def table (c : Catalog) (name : String) : Except Failure Table :=
  match c.table? name with
  | some t => .ok t
  | none => .error (.fault .key (some name))

end Catalog
end QuoteService.Schema
