/-
  Request/Filter.lean --- conditions on the rows a request asks for, and their order.

  WHAT THIS FILE IS FOR.  Five kinds of clause put a condition on the rows:

      after 1950                     first timestamp column >= '1950-01-01'
      before 1950                    first timestamp column <  '1950-01-01'
      less than 20, under 20         first number column < 20
      greater than 20, more than 20,
      over 20                        first number column > 20
      id 7                           id = 7, or rowid = 7 if the table has no whole-number
                                     column named id

  Every kind is looked for in the whole request, independently of the others, and
  contributes at most one condition, in this order.  A kind whose column the table
  lacks contributes none.

  A request that holds the word latest, be it inside a longer word, asks for the newest
  rows first, and one that holds oldest for the oldest first; latest prevails.  Rows are
  ordered by the first timestamp column, and not at all if the table has none.
-/
import PlainSearch.Request.Clause
import PlainSearch.Schema.Basic

set_option autoImplicit false

namespace PlainSearch

/-- The column types that hold numbers. -/
def ColumnType.numeric : List ColumnType := [.float, .integer]

/-- A kind of condition. -/
structure FilterRule where
  clause : Clause
  /-- the condition on a table for a numeral, if the table has the column -/
  condition? : Table → Text → Option Text

namespace FilterRule

/-- A condition on the first timestamp column, counted from the first day of a year. -/
def onDate (keyword operator : Text) : FilterRule where
  clause := ⟨[[keyword]], NumeralForm.year⟩
  condition? table year :=
    (table.firstColumnOf? [.timestamp]).map fun c =>
      c.name ++ [' '] ++ operator ++ [' ', '\''] ++ year ++ "-01-01'".toList

/-- A condition on the first column that holds numbers. -/
def onNumber (keywords : List Keyword) (operator : Text) : FilterRule where
  clause := ⟨keywords, NumeralForm.amount⟩
  condition? table amount :=
    (table.firstColumnOf? ColumnType.numeric).map fun c =>
      c.name ++ [' '] ++ operator ++ [' '] ++ amount

/-- The column that tells the rows of a table apart. -/
def keyColumn (table : Table) : Text :=
  match table.column? "id".toList with
  | some c => if c.type = .integer then "id".toList else "rowid".toList
  | none => "rowid".toList

/-- The condition that picks out one row. -/
def onKey : FilterRule where
  clause := ⟨[["id".toList]], NumeralForm.whole⟩
  condition? table key := some (keyColumn table ++ " = ".toList ++ key)

/-- Every kind of condition, in the order in which they are stated. -/
def all : List FilterRule :=
  [ onDate "after".toList ">=".toList,
    onDate "before".toList "<".toList,
    onNumber [["less".toList, "than".toList], ["under".toList]] "<".toList,
    onNumber [["greater".toList, "than".toList], ["over".toList], ["more".toList, "than".toList]]
      ">".toList,
    onKey ]

/-- What a rule makes of a text: nothing if its clause does not occur, otherwise the occurrence
and the condition, if the table has the column. -/
def read? (r : FilterRule) (table : Table) (text : Text) : Option (Occurrence × Option Text) :=
  (r.clause.first? text).map fun o => (o, r.condition? table o.numeral)

end FilterRule

namespace Request

/-- What the rules make of a text, in their order. -/
def filterOutcomes (table : Table) (text : Text) : List (Occurrence × Option Text) :=
  FilterRule.all.filterMap fun r => r.read? table text

/-- The conditions that a text puts on the rows of a table. -/
def filters (table : Table) (text : Text) : List Text :=
  (filterOutcomes table text).filterMap (·.2)

/-- The ordering of rows that a text asks for. -/
def order? (table : Table) (text : Text) : Option Text :=
  match table.firstColumnOf? [.timestamp] with
  | none => none
  | some c =>
    if Text.occursIn "latest".toList text then
      some ("ORDER BY ".toList ++ c.name ++ " DESC".toList)
    else if Text.occursIn "oldest".toList text then
      some ("ORDER BY ".toList ++ c.name ++ " ASC".toList)
    else none

end Request
end PlainSearch
