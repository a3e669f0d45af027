/-
  Schema/Basic.lean --- typed tables and the catalog of them.

  WHAT THIS FILE IS FOR.  A request is understood against a catalog: the tables
  that can be searched, in the order they were found, each with its columns and
  what their values look like.  A table is searched through its companion, the
  full-text table whose name is the table's own followed by a suffix.
-/
import PlainSearch.Text.Basic

set_option autoImplicit false

namespace PlainSearch

/-- What the values of a column look like. -/
inductive ColumnType where
  /-- whole numbers -/
  | integer
  /-- numbers, some with a fraction -/
  | float
  /-- texts that begin with a date -/
  | timestamp
  /-- anything else -/
  | text
  deriving DecidableEq, Repr

namespace ColumnType

/-- Every column type, in order of preference. -/
def all : List ColumnType := [.integer, .float, .timestamp, .text]

/-- The name of a column type in results. -/
def name : ColumnType → Text
  | .integer => "integer".toList
  | .float => "float".toList
  | .timestamp => "timestamp".toList
  | .text => "text".toList

/-- The symbol of a column type. -/
def symbol : ColumnType → Text
  | .integer => "INTEGER".toList
  | .float => "FLOAT".toList
  | .timestamp => "TIMESTAMP".toList
  | .text => "TEXT".toList

/-- The column type of a name. -/
def ofName? (t : Text) : Option ColumnType := all.find? fun c => c.name = t

theorem ofName?_name (c : ColumnType) : ofName? c.name = some c := by
  cases c <;> rfl

end ColumnType

/-- A column and what its values look like. -/
structure Column where
  name : Text
  type : ColumnType := .text
  deriving DecidableEq, Repr

/-- A table that can be searched. -/
structure Table where
  /-- the table's own name, not that of its companion -/
  name : Text
  columns : List Column := []
  deriving DecidableEq, Repr

namespace Table

/-- The name of the full-text table that a table is searched through. -/
def companion (t : Table) (suffix : Text) : Text := t.name ++ suffix

/-- The first column whose type is one of the given ones. -/
def firstColumnOf? (t : Table) (types : List ColumnType) : Option Column :=
  t.columns.find? fun c => types.contains c.type

/-- The first column of a name. -/
def column? (t : Table) (name : Text) : Option Column :=
  t.columns.find? fun c => c.name = name

end Table

/-- The tables that can be searched, in the order they were found. -/
structure Catalog where
  tables : List Table := []
  deriving DecidableEq, Repr

namespace Catalog

/-- The number of tables. -/
def size (c : Catalog) : Nat := c.tables.length

/-- The names of the tables. -/
def names (c : Catalog) : List Text := c.tables.map (·.name)

/-- The first table of a name. -/
def get? (c : Catalog) (name : Text) : Option Table := c.tables.find? fun t => t.name = name

end Catalog
end PlainSearch
