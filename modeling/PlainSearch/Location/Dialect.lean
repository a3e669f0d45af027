/-
  Location/Dialect.lean --- the dialects and drivers that a URL may name.

  WHAT THIS FILE IS FOR.  The scheme of a URL is the name of a dialect, perhaps with a
  plus sign and the name of a driver for it.  Most drivers are not there; the module
  that is missing is then told.  Only one dialect can be searched.
-/
import PlainSearch.Text.Basic

set_option autoImplicit false

namespace PlainSearch.Location

/-- The dialects of engines: the one that can be searched, and others. -/
inductive Dialect where
  | sqlite
  | mysql
  | mariadb
  | other (name : Text)
  deriving DecidableEq, Repr

/-- The name of a dialect. -/
def Dialect.name : Dialect → Text
  | .sqlite => "sqlite".toList
  | .mysql => "mysql".toList
  | .mariadb => "mariadb".toList
  | .other name => name

/-- A driver. -/
inductive Driver where
  | present (dialect : Dialect)
  | missing (moduleName : String)
  deriving DecidableEq, Repr

/-- The drivers of a dialect by their names; the name of the one that is taken when none is named
is `base`. -/
def drivers : List (String × List (String × Driver)) :=
  let mysqlModules :=
    [("base", Driver.missing "MySQLdb"), ("mysqldb", .missing "MySQLdb"),
      ("mysqlconnector", .missing "mysql"), ("cymysql", .missing "cymysql"),
      ("pyodbc", .missing "pyodbc"), ("aiomysql", .missing "aiomysql"),
      ("asyncmy", .missing "asyncmy"), ("mariadbconnector", .missing "mariadb")]
  [ ("sqlite",
      [("base", .present .sqlite), ("pysqlite", .present .sqlite),
        ("pysqlcipher", .missing "pysqlcipher3"), ("aiosqlite", .missing "aiosqlite")]),
    ("mysql", ("pymysql", .present .mysql) :: mysqlModules),
    ("mariadb", ("pymysql", .present .mariadb) :: mysqlModules),
    ("postgresql",
      [("base", .missing "psycopg"), ("psycopg", .missing "psycopg"),
        ("psycopg_async", .missing "psycopg"), ("psycopg2", .missing "psycopg2"),
        ("psycopg2cffi", .missing "psycopg2cffi"), ("asyncpg", .missing "asyncpg"),
        ("pg8000", .missing "pg8000")]),
    ("oracle",
      [("base", .missing "oracledb"), ("oracledb", .missing "oracledb"),
        ("oracledb_async", .missing "oracledb"), ("cx_oracle", .missing "cx_Oracle")]),
    ("mssql",
      [("base", .missing "pyodbc"), ("pyodbc", .missing "pyodbc"),
        ("pymssql", .missing "pymssql"), ("aioodbc", .missing "aioodbc")]) ]

/-- Why there is no driver for a scheme. -/
inductive SchemeFault where
  | overlong
  | unknown
  | missingModule (name : Text)
  deriving DecidableEq, Repr

/-- The dialect that a scheme names and has a driver for. -/
def dialectOf (scheme : Text) : Except SchemeFault Dialect :=
  let find (dialect driver : Text) : Except SchemeFault Dialect :=
    match (drivers.find? fun d => d.1.toList = dialect).bind fun d =>
        d.2.find? fun v => v.1.toList = driver with
    | some (_, .present d) => .ok d
    | some (_, .missing m) => .error (.missingModule m.toList)
    | none => .error .unknown
  match Text.splitOn '+' scheme with
  | [dialect] => find dialect "base".toList
  | [dialect, driver] => find dialect driver
  | _ => .error .overlong

end PlainSearch.Location
