/-
  Sql/Keyword.lean --- the words that a bare name is not read as a name by.

  WHAT THIS FILE IS FOR.  A bare name with a line break at its end may be a word of
  the language itself.  The engine takes many of those words for names all the same,
  some of them only in certain places, and refuses the others.  A refusal names the
  word at which the statement ceases to be one: the word itself, or the word FROM
  behind it if something else was expected first.

  Of the words that stand for a value, the three with a fixed one are told here.
-/
import PlainSearch.Sql.Identifier

set_option autoImplicit false

namespace PlainSearch.Sql

/-- Where a name stands in a statement. -/
inductive Place where
  | described
  | source
  | value
  deriving DecidableEq, Repr

/-- The words that are refused in every place. -/
def refusedWords : List Text :=
  ["add", "alter", "and", "as", "autoincrement", "between", "check", "collate", "commit",
    "constraint", "create", "deferrable", "drop", "else", "escape", "except", "foreign", "from",
    "group", "having", "in", "index", "insert", "intersect", "into", "is", "isnull", "join",
    "limit", "nothing", "notnull", "or", "order", "primary", "references", "returning", "select",
    "set", "table", "then", "to", "transaction", "union", "unique", "update", "using", "values",
    "when", "where"].map String.toList

/-- The words that begin a value, so that a name is missing where one is described or read. -/
def openingWords : List Text :=
  ["all", "case", "distinct", "exists", "not"].map String.toList

/-- The words that are names only where something is described. -/
def describableWords : List Text := ["default", "delete", "on"].map String.toList

/-- The words that begin a value and are names in the other places. -/
def valueOpeningWords : List Text := ["cast", "raise"].map String.toList

/-- What a bare name stands for. -/
inductive Reading where
  | name (n : Text)
  | nothing
  | truth (b : Bool)
  | refusedAt (word : Text)
  deriving DecidableEq, Repr

/-- What a word stands for in a place. -/
def readWord (place : Place) (w : Text) : Reading :=
  if refusedWords.contains w then .refusedAt w
  else match place with
    | .described =>
      if openingWords.contains w || w = "null".toList then .refusedAt w else .name w
    | .source =>
      if openingWords.contains w || describableWords.contains w || w = "null".toList then
        .refusedAt w
      else .name w
    | .value =>
      if describableWords.contains w then .refusedAt w
      else if openingWords.contains w || valueOpeningWords.contains w then
        .refusedAt "FROM".toList
      else if w = "null".toList then .nothing
      else if w = "true".toList then .truth true
      else if w = "false".toList then .truth false
      else .name w

/-- What a name stands for in a place of a statement, written as `identifier` writes it. -/
def reading (place : Place) (name : Text) : Reading :=
  if isBare name then readWord place (stem name) else .name name

/-- A name between double quotes is read as it is. -/
theorem reading_of_not_isBare {place : Place} {name : Text} (h : isBare name = false) :
    reading place name = .name name := by
  simp [reading, h]

end PlainSearch.Sql
