/-
  Database/Reader.lean --- a database, by what its engine answers.

  WHAT THIS FILE IS FOR.  Of a database engine the program asks three things: which
  tables have a name of some pattern, which columns a table has, and which values a
  column holds.  A `Reader` is what an engine answers for one database.  It may
  refuse any of it, for any reason, and what it answers need not be about anything:
  what the program relies on is said where it is relied on (`Reader.Reflects`).

  RULES OF HANDING OVER.
    * A number that is handed to an engine is a signed 64-bit integer.
    * A row limit takes that many of the first values; one below zero takes them all.
      An engine that comes upon a value it cannot give is one reader for each limit: behind
      the last value that is taken nothing is looked at.
    * What an engine holds is never the not-a-number and never a truth value.
-/
import PlainSearch.Database.Refusal
import PlainSearch.Datum.Basic
import PlainSearch.Number.Integer

set_option autoImplicit false

namespace PlainSearch

/-- A database, by what its engine answers. -/
structure Reader where
  /-- the tables whose names have a pattern, in the order in which they were created -/
  tablesLike : Text → Except EngineError (List Text)
  /-- the columns of a table, none if there is no such table -/
  columnsOf : Text → Except EngineError (List Text)
  /-- the values of a column of a table that are not missing, in the order of the rows -/
  columnValues : Text → Text → Except EngineError (List Datum)

namespace Database

/-- A row of a table, cell by cell. -/
abbrev Row : Type := List Datum

/-- What a cell keeps of a value: the not-a-number counts as nothing, and a truth value as a
number. -/
def stored : Datum → Datum
  | .real .nan => .null
  | .bool b => .int (if b then 1 else 0)
  | v => v

/-- The value is not missing. -/
def isPresent : Datum → Bool
  | .null => false
  | _ => true

/-- The first values of a list, as many as a row limit lets through. -/
def takeRows (limit : Int) (values : List Datum) : List Datum :=
  if limit < 0 then values else values.take limit.toNat

/-- The row limit can be handed to the engine. -/
def fitsEngine (limit : Int) : Bool :=
  -Integer.wordBound ≤ limit && limit < Integer.wordBound

end Database
end PlainSearch
