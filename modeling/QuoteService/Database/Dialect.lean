import QuoteService.Database.Url

/-! Dialects of databases and the drivers that are known for them. -/
namespace QuoteService

inductive Dialect where
  | postgresql
  | sqlite
  | mysql
  | mariadb
  | mssql
  | oracle
  deriving DecidableEq, Repr

namespace Dialect

def name : Dialect → String
  | .postgresql => "postgresql"
  | .sqlite => "sqlite"
  | .mysql => "mysql"
  | .mariadb => "mariadb"
  | .mssql => "mssql"
  | .oracle => "oracle"

def all : List Dialect := [.postgresql, .sqlite, .mysql, .mariadb, .mssql, .oracle]

def ofName? (name : String) : Option Dialect := all.find? fun d => d.name == name

/-- The drivers of a dialect by name; `base` is the usual one. -/
def drivers : Dialect → List String
  | .postgresql => ["base", "asyncpg", "pg8000", "psycopg", "psycopg2", "psycopg2cffi"]
  | .sqlite => ["base", "aiosqlite", "pysqlite", "pysqlcipher"]
  | .mysql | .mariadb => ["base", "aiomysql", "asyncmy", "cymysql", "mariadbconnector",
      "mysqlconnector", "mysqldb", "pymysql", "pyodbc"]
  | .mssql => ["base", "aioodbc", "pymssql", "pyodbc"]
  | .oracle => ["base", "cx_oracle", "oracledb"]

end Dialect

/-- How a database is talked to. -/
structure Engine where
  dialect : Dialect
  driver : String
  deriving DecidableEq, Repr

namespace Engine

def unknown (scheme : String) : Failure :=
  .fault .dialect (some ("no dialect and driver of the name " ++ scheme))

/-- The engine of a scheme: a dialect, and a driver after a plus sign or the usual one. -/
def ofScheme (scheme : String) : Except Failure Engine :=
  let find (name driver : String) : Except Failure Engine :=
    match Dialect.ofName? name with
    | some d => if d.drivers.contains driver then .ok ⟨d, driver⟩ else .error (unknown scheme)
    | none => .error (unknown scheme)
  match Text.splitOn '+' scheme.toList with
  | [name] => find (String.ofList name) "base"
  | [name, driver] => find (String.ofList name) (String.ofList driver)
  | _ => .error (.fault .value (some "too many values to unpack (expected 2)"))

/-- How a driver answers. -/
inductive Style where
  | blocking
  | async
  deriving DecidableEq, Repr

/-- The style of a driver that the service is shipped with; no others can be loaded. -/
def style (e : Engine) : Except Failure Style :=
  match e.dialect, e.driver with
  | .sqlite, "base" | .sqlite, "pysqlite" => .ok .blocking
  | .sqlite, "aiosqlite" | .postgresql, "asyncpg" => .ok .async
  | _, _ => .error (.fault .missingModule (some ("no module for " ++ e.driver)))

/-- A driver that would block the service. -/
def blockingDriver : Failure :=
  .fault .driver (some "the driver is not asynchronous")

def Style.requireAsync : Style → Except Failure Unit
  | .blocking => .error blockingDriver
  | .async => .ok ()

end Engine

/-- The engine of a database URL. -/
def DatabaseUrl.engine (url : DatabaseUrl) : Except Failure Engine := Engine.ofScheme url.scheme

end QuoteService
