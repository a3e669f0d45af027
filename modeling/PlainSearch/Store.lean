/-
  Store.lean --- reading a database.

  WHAT THIS FILE IS FOR.  A store is a database reached through a URL.  It reads
  four things and changes nothing: the companions in the database, the columns of a
  table, samples of a column, and the rows of a search.  Each either succeeds, or
  fails with an error that tells what was tried, on what, and with which statement.
-/
import PlainSearch.Journal
import PlainSearch.Location.Connection
import PlainSearch.Sql.Identifier
import PlainSearch.Sql.Like

set_option autoImplicit false

namespace PlainSearch

/-- A database reached through a URL, by the engine that a library makes of it. -/
structure Store where
  url : Text
  library : Library

namespace Store

/-! ## Failures -/

/-- The parameters of a statement, as messages tell them; a long one is shortened in its
middle. -/
def parameterNote (shown : Text) : Text :=
  let most := 300
  let half := most / 2
  let t :=
    if most < shown.length then
      shown.take half ++ " ... (".toList ++ Text.ofNat (shown.length - most)
        ++ " characters truncated) ... ".toList ++ shown.drop (shown.length - half)
    else shown
  '(' :: t ++ [',', ')']

/-- A statement that the engine refused: what was tried, the refusal, the statement and its
parameters as the engine had them, and the statement as it is reported. -/
def refusal (attempt : Text) (e : EngineError) (statement : Text) (parameters : Option Text)
    (reported : Text) : SearchError :=
  .query (attempt ++ ": ".toList ++ e.describe (some statement) parameters) (some reported)

/-- A statement for which nothing could be opened. -/
def unopened (attempt : Text) (e : EngineError) (reported : Text) : SearchError :=
  .query (attempt ++ ": ".toList ++ e.describe none none) (some reported)

/-- The engine of a store, or why there is none. -/
def engine (s : Store) : Except SearchError Location.Engine :=
  (Connection.engine s.library.make { url := s.url }).1

/-- Asks the engine: makes sure of the connection, and turns refusals into errors.  A statement
with a null character is refused before the file is read. -/
def asking {α : Type} (s : Store) (attempt statement : Text) (parameters : Option Text)
    (reported : Text) (question : Reader → Except EngineError α) : Except Fault α :=
  let refused (e : EngineError) : Except Fault α :=
    .error (.search (refusal attempt e statement parameters reported))
  match s.engine with
  | .error e => .error (.search e)
  | .ok e =>
    match s.library.find e with
    | .refused e => .error (.search (unopened attempt e reported))
    | .impossible f => .error (.opening f)
    | .foreign => refused (if statement.contains '\x00' then .nullCharacter else .notADatabase)
    | .database db =>
      if statement.contains '\x00' then refused .nullCharacter
      else match question db with
        | .ok a => .ok a
        | .error e => refused e

/-! ## Companions -/

/-- The statement that lists tables by a pattern, with the pattern written as `pattern`. -/
def listStatement (pattern : Text) : Text :=
  "SELECT name FROM sqlite_master WHERE type = 'table' AND name LIKE ".toList ++ pattern
    ++ " ESCAPE '\\'".toList

/-- The tables whose names end with a suffix, in the order in which they were created.  The
engine's pattern passes over letter case, which the suffix does not. -/
def companions (s : Store) (suffix : Text) : Except Fault (List Text) :=
  let pattern := Sql.Like.endingWith suffix
  match s.asking "Failed to list mirror tables".toList (listStatement ['?'])
      (some (parameterNote (Text.quoted pattern))) (listStatement ":pattern".toList)
      (·.tablesLike pattern) with
  | .error e => .error e
  | .ok names => .ok (names.filter (Text.endsWith suffix))

/-! ## Columns -/

/-- The statement that lists the columns of a table. -/
def columnsStatement (table : Text) : Text :=
  "PRAGMA table_info(".toList ++ Sql.identifier table ++ [')']

/-- The columns of a table, in the order in which they were declared.  A table without any counts
as missing. -/
def columns (s : Store) (table : Text) : Except Fault (List Text) :=
  let sql := columnsStatement table
  match s.asking ("Failed to list columns of '".toList ++ table ++ ['\'']) sql none sql
      (·.columnsOf table) with
  | .error e => .error e
  | .ok [] => .error (.search (.tableNotFound table none))
  | .ok cs => .ok cs

/-! ## Samples -/

/-- The statement that samples a column. -/
def sampleStatement (table column : Text) : Text :=
  let c := Sql.identifier column
  "SELECT ".toList ++ c ++ " FROM ".toList ++ Sql.identifier table ++ " WHERE ".toList ++ c
    ++ " IS NOT NULL LIMIT ?".toList

/-- The first values of a column that are present, as text, as many as the limit lets through. -/
def sample (s : Store) (table column : Text) (limit : Int) : Except Fault (List Text) :=
  let sql := sampleStatement table column
  match s.asking
      ("Failed to sample '".toList ++ table ++ ['.'] ++ column ++ ['\'']) sql
      (some (parameterNote (Text.ofInt limit))) sql (·.columnValues table column) with
  | .error f => .error f
  | .ok values =>
    if Database.fitsEngine limit then
      .ok ((Database.takeRows limit values).map Datum.shown)
    else .error .limitBeyondEngine

/-! ## Searches -/

/-- What an engine gives for a statement. -/
inductive Reply where
  | rows (columns : List Text) (rows : List Database.Row)
  | failure (reason : Text)
  /-- nothing, the statement being none that gives rows -/
  | noRows
  deriving Repr

/-- The reply to a search that finds nothing. -/
def Reply.empty : Reply := .rows ["rowid".toList] []

/-- What the engine gives for searches, statement by statement. -/
abbrev Answer : Type := Text → Reply

/-- What the error of a statement without rows says. -/
def noRowsReason : Text :=
  "This result object does not return rows. It has been closed automatically.".toList

/-- Runs a search. -/
def execute (s : Store) (answer : Answer) (sql : Text) :
    Traced (List Text × List Database.Row) := do
  Traced.record .debug .store ("Executing: ".toList ++ sql)
  match s.engine with
  | .error e => Traced.fail (.search e)
  | .ok _ =>
    let refused (reason : Text) : Fault :=
      .search (.query ("Query execution failed: ".toList ++ reason) (some sql))
    match answer sql with
    | .rows columns rows => return (columns, rows.map fun row => row.map Database.stored)
    | .failure reason => Traced.fail (refused reason)
    | .noRows => Traced.fail (refused noRowsReason)

end Store
end PlainSearch
