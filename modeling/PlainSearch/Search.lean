/-
  Search.lean --- from a request to its report.

  WHAT THIS FILE IS FOR.  Asking a request reads it against the catalog of the
  database, runs the statement it comes to, and reports the rows.  A request that
  names no table is not understood, which is no error.

  A report repeats the request and the statement made of it, and holds the rows, each
  a record from column to value.
-/
import PlainSearch.Request.Statement
import PlainSearch.Schema.Discovery

set_option autoImplicit false

namespace PlainSearch

/-- The result of a search. -/
structure Report where
  query : Text
  sql : Text
  count : Int
  rows : List Fields := []
  deriving Repr

/-- A report as a value. -/
def Report.toDatum (r : Report) : Datum :=
  .record [("query".toList, .text r.query), ("sql".toList, .text r.sql),
    ("count".toList, .int r.count), ("rows".toList, .list (r.rows.map .record))]

namespace Search

/-- What is answered to a request that is not understood. -/
def notUnderstood : Datum :=
  .record [("error".toList, .text "Could not interpret query".toList)]

/-- A row as a record, with one value for each column. -/
def record (columns : List Text) (row : Database.Row) : Except Fault Fields :=
  if row.length = columns.length then .ok (Fields.ofPairs columns row)
  else .error (.unevenRow (row.length < columns.length))

/-- Runs the statement of a request and reports its rows. -/
def execute (store : Store) (answer : Store.Answer) (query sql : Text) : Traced Report := do
  let (columns, rows) ← store.execute answer sql
  let records ← Traced.ofExcept (rows.mapM (record columns))
  Traced.record .info .results
    (Text.ofNat records.length ++ " row(s) for ".toList ++ Text.quoted query)
  return ⟨query, sql, records.length, records⟩

/-- The statement of a request, over a catalog given or discovered. -/
def statement? (settings : Settings) (store : Store) (known : Option Catalog) (query : Text) :
    Traced (Option Text) := do
  let catalog ← match known with
    | some c => pure c
    | none => Discovery.catalog settings store
  Request.statement? settings catalog query

/-- Asks a request; nothing comes of one that is not understood. -/
def ask (settings : Settings) (store : Store) (known : Option Catalog) (answer : Store.Answer)
    (query : Text) : Traced (Option Report) := do
  match ← statement? settings store known query with
  | none => return none
  | some sql =>
    let report ← execute store answer query sql
    return some report

end Search
end PlainSearch
