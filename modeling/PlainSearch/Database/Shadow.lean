/-
  Database/Shadow.lean --- the tables that the engine keeps for a full-text table.

  WHAT THIS FILE IS FOR.  A full-text table is followed by five tables of the
  engine's own: the blocks of its word index, the terms at which the blocks begin,
  the cells, the sizes of the cells and the settings.  They are listed like any other
  table, and a search for a table can find them, so their columns and rows matter.

  The rows follow from those of the full-text table (`Shadow.rows`).  Of the blocks
  and sizes, which are bytes, only that they are there is kept: what a reader learns of
  such a column is that it holds bytes.
-/
import PlainSearch.Database.Reader
import PlainSearch.Text.Utf8
import PlainSearch.Text.Word

set_option autoImplicit false

namespace PlainSearch.Database

/-- A table that the engine keeps for a full-text table. -/
inductive Shadow where
  | blocks
  | terms
  | cells
  | sizes
  | settings
  deriving DecidableEq, Repr

namespace Shadow

/-- The tables that are kept, in the order in which they are created. -/
def all : List Shadow := [.blocks, .terms, .cells, .sizes, .settings]

/-- What stands behind the name of the full-text table. -/
def suffix : Shadow → Text
  | .blocks => "_data".toList
  | .terms => "_idx".toList
  | .cells => "_content".toList
  | .sizes => "_docsize".toList
  | .settings => "_config".toList

/-- The columns, for a full-text table of so many columns. -/
def columns (width : Nat) : Shadow → List Text
  | .blocks => ["id", "block"].map String.toList
  | .terms => ["segid", "term", "pgno"].map String.toList
  | .cells => "id".toList :: (List.range width).map fun i => 'c' :: Text.ofNat i
  | .sizes => ["id", "sz"].map String.toList
  | .settings => ["k", "v"].map String.toList

/-- What the definition of the table says of its columns. -/
def body (width : Nat) : Shadow → Text
  | .blocks => "(id INTEGER PRIMARY KEY, block BLOB)".toList
  | .terms => "(segid, term, pgno, PRIMARY KEY(segid, term)) WITHOUT ROWID".toList
  | .cells =>
    "(id INTEGER PRIMARY KEY".toList
      ++ ((List.range width).flatMap fun i => ", c".toList ++ Text.ofNat i) ++ [')']
  | .sizes => "(id INTEGER PRIMARY KEY, sz BLOB)".toList
  | .settings => "(k PRIMARY KEY, v) WITHOUT ROWID".toList

/-! ## Rows -/

/-- A character that is part of a term: a letter or numeral, or one for private use. -/
def isTermChar (c : Char) : Bool :=
  (Text.isWordChar c && c ≠ '_')
    || Text.inRanges [(0xe000, 0xf8ff), (0xf0000, 0xffffd), (0x100000, 0x10fffd)] c.toNat

/-- A cell with a term in it.  A number is never without one: it has digits, or it is written as
a word. -/
def hasTerm : Datum → Bool
  | .text t => t.any isTermChar
  | .bytes bs => (Utf8.decodeLossy bs).any isTermChar
  | .int _ => true
  | .real _ => true
  | _ => false

/-- Bytes that are there, whatever they are. -/
def someBytes : Datum := .bytes []

/-- The rows, for a full-text table with the rows `filled`.  The word index begins with two blocks
about itself; a block of terms is there once there is a term. -/
def rows (filled : List Row) : Shadow → List Row
  | .blocks =>
    [.int 1, someBytes] :: [.int 10, someBytes]
      :: if filled.any (·.any hasTerm) then [[.int 137438953473, someBytes]] else []
  | .terms => if filled.any (·.any hasTerm) then [[.int 1, someBytes, .int 2]] else []
  | .cells => filled.zipIdx.map fun row => .int (row.2 + 1) :: row.1
  | .sizes => filled.zipIdx.map fun row => [.int (row.2 + 1), someBytes]
  | .settings => [[.text "version".toList, .int 4]]

end Shadow

end PlainSearch.Database
