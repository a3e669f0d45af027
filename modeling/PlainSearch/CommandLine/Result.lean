/-
  CommandLine/Result.lean --- what a command comes to, and how it is told.

  WHAT THIS FILE IS FOR.  A command that succeeds has one of four results: a
  catalog, a statement, a report, or that the request is not understood.  A result
  is told in one of two ways: as a JSON document, or as text and tables for a
  screen.  A failure is told in the same two ways, on the screen as a panel.
-/
import PlainSearch.Json.Writer
import PlainSearch.Layout.Grid
import PlainSearch.Layout.Markup
import PlainSearch.Search
import PlainSearch.Validation.Models

set_option autoImplicit false

namespace PlainSearch.CommandLine

/-- The result of a command. -/
inductive Result where
  /-- the tables that can be searched, whose companions have the suffix -/
  | catalog (c : Catalog) (suffix : Text)
  | statement (query sql : Text)
  | report (r : Report)
  | notUnderstood
  deriving Repr

namespace Result

/-- A table of a catalog as a value, with its companion. -/
def tableDatum (suffix : Text) (t : Table) : Datum :=
  .record [("table".toList, .text t.name), ("mirror".toList, .text (t.companion suffix)),
    ("columns".toList, .list (t.columns.map Column.toDatum))]

/-- A result as a value. -/
def toDatum : Result → Datum
  | .catalog c suffix => .list (c.tables.map (tableDatum suffix))
  | .statement query sql => .record [("query".toList, .text query), ("sql".toList, .text sql)]
  | .report r => r.toDatum
  | .notUnderstood => Search.notUnderstood

/-! ## On a screen -/

/-- A table of a catalog as a grid. -/
def tableGrid (suffix : Text) (t : Table) : Layout.Grid where
  title := some (Layout.Markup.plain (t.name ++ " → ".toList ++ t.companion suffix))
  header := ["Column".toList, "Type".toList]
  rows := t.columns.map fun c => [Layout.Markup.plain c.name, c.type.name]

/-- Rows as a grid, under the names that the first of them has. -/
def rowGrid (rows : List Fields) : Layout.Grid :=
  let names := (rows.head?.getD []).map (·.1)
  let cell (v : Option Datum) : Text := ((v.map Datum.shown).map Layout.Markup.plain).getD []
  { header := names.map Layout.Markup.plain
    rows := rows.map fun fs => names.map fun n => cell (fs.get? n)
    most := 60 }

/-- A request and its statement. -/
def statementLines (query sql : Text) : List Text :=
  Layout.wrap .folded Layout.screenWidth ("Query: ".toList ++ Layout.Markup.plain query)
    ++ Layout.listing Layout.screenWidth sql

/-- A result for a screen. -/
def lines : Result → List Text
  | .catalog c suffix =>
    if c.size = 0 then ["No mirror tables found.".toList]
    else c.tables.flatMap fun t => (tableGrid suffix t).lines
  | .statement query sql => statementLines query sql
  | .report r =>
    statementLines r.query r.sql ++
      (if r.rows.isEmpty then ["No results found.".toList]
        else (rowGrid r.rows).lines ++ [[], Text.ofInt r.count ++ " result(s)".toList])
  | .notUnderstood => ["Could not interpret query".toList]

/-- A result as it is told. -/
def told (pretty : Bool) (r : Result) : Text :=
  if pretty then Layout.text r.lines else Json.document r.toDatum ++ ['\n']

end Result

/-! ## Failures -/

/-- A failure for a screen: its message, and then the named values that come with it. -/
def failureText (f : Fault) : Text :=
  let context := match f with
    | .search e => e.context
    | _ => []
  if context.isEmpty then f.message
  else f.message ++ ['\n', '\n'] ++ Text.joinWith ['\n']
    (context.map fun v => v.1 ++ [':', ' '] ++ v.2.shown)

/-- A failure as a panel. -/
def failurePanel (f : Fault) : Text :=
  Layout.text (Layout.panel "Error".toList (Layout.Markup.plain (failureText f)))

/-- A failure as a document. -/
def failureDocument (f : Fault) : Text := Json.document f.report ++ ['\n']

end PlainSearch.CommandLine
