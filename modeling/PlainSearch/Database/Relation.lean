/-
  Database/Relation.lean --- what a name in a statement gives: columns of values.

  WHAT THIS FILE IS FOR.  A table or a view is read column by column.  A `Relation`
  holds the columns that are listed, those that are found by their names only, and
  the numbers of the rows.  The rows of a table are numbered from one on; those of a
  view have nothing for a number.

  A column is read from an index in place of the table if that holds all it takes and
  is the shorter way, and its values then come in the order of the index.  An index is
  one if the column is its first key and it has no more keys than the table columns,
  or if it has fewer (`access?`).

  The engine keeps a table of the objects of a database, under two names, and another
  one, of objects that live as long as the connection, which is empty.  They are
  relations like any other (`inventory`).
-/
import PlainSearch.Database.Basic
import PlainSearch.Database.Order
import PlainSearch.Sql.Identifier

set_option autoImplicit false

namespace PlainSearch.Database

/-- A column of a relation: its name, and what it holds, row by row. -/
structure Attribute where
  name : Text
  values : List Datum
  /-- the place of the column among those of the table that it comes from -/
  origin : Option Nat := none
  deriving Repr

/-- An index of the table that rows come from. -/
structure Access where
  /-- the places of its keys among the columns of the table; a key need not be a column -/
  keys : List (Option Nat)
  /-- the places of the rows, in the order of the index -/
  order : List Nat
  deriving Repr

/-- The columns and rows of a table or a view. -/
structure Relation where
  attributes : List Attribute
  /-- the columns that are found by name and not listed -/
  hidden : List Attribute := []
  /-- the number of each row, if it has one -/
  rowNumbers : List Datum
  /-- how many columns the table has that the rows come from -/
  width : Nat := 0
  /-- the indexes of that table, in the order in which they were created -/
  accesses : List Access := []
  deriving Repr

namespace Relation

/-- How many rows there are. -/
def height (r : Relation) : Nat := r.rowNumbers.length

/-- A column that holds the same in each of so many rows. -/
def constant (name : Text) (height : Nat) (v : Datum) : Attribute :=
  ⟨name, List.replicate height v, none⟩

/-- The columns of rows; there is nothing beyond the end of a row. -/
def columnsOf (names : List Text) (rows : List Row) : List Attribute :=
  names.zipIdx.map fun n => ⟨n.1, rows.map fun row => row[n.2]?.getD .null, some n.2⟩

/-- Rows that are numbered from one on. -/
def ofRows (names : List Text) (rows : List Row) : Relation where
  attributes := columnsOf names rows
  rowNumbers := (List.range rows.length).map fun (i : Nat) => .int (i + 1)
  width := names.length

/-- What the rows of a relation are called by number. -/
def rowNumberNames : List Text := ["rowid".toList, "oid".toList, "_rowid_".toList]

/-- What a name stands for among the columns of a relation. -/
inductive Meaning where
  | attribute (a : Attribute)
  | rowNumber
  | unknown

/-- What a name stands for in a relation: a column of that name, or else the number of the row. -/
def meaning (r : Relation) (name : Text) : Meaning :=
  match (r.attributes ++ r.hidden).find? fun a => Text.eqIgnoringAsciiCase a.name name with
  | some a => .attribute a
  | none =>
    if rowNumberNames.any (Text.eqIgnoringAsciiCase name) then .rowNumber else .unknown

/-! ## Indexes -/

/-- The index with the given keys; a key that is no column is a text. -/
def accessOf (r : Relation) (names : List Text) : Access :=
  let keys : List Attribute := names.map fun n =>
    match r.meaning n with
    | .attribute a => a
    | .rowNumber => ⟨n, r.rowNumbers, none⟩
    | .unknown => constant n r.height (.text n)
  { keys := keys.map (·.origin)
    order := orderOf ((List.range r.height).map fun i =>
      keys.map fun a => a.values[i]?.getD .null) }

/-- Of several indexes, the last of those with the fewest keys. -/
def narrowest? (accesses : List Access) : Option Access :=
  accesses.foldl (fun best a =>
    match best with
    | some b => if b.keys.length < a.keys.length then some b else some a
    | none => some a) none

/-- The index that is read for the column of the table at a place, or for none of them; nothing if
the table itself is read. -/
def access? (r : Relation) (origin : Option Nat) : Option Access :=
  let led := r.accesses.filter fun a =>
    a.keys.length ≤ r.width && origin.isSome && a.keys.head? = some origin
  let shorter := r.accesses.filter fun a =>
    a.keys.length < r.width && (origin.isNone || a.keys.contains origin)
  (narrowest? led).or (narrowest? shorter)

/-- Values of the rows, in the order in which they are read. -/
def inReadingOrder (r : Relation) (origin : Option Nat) (values : List Datum) : List Datum :=
  match r.access? origin with
  | some a => a.order.map fun i => values[i]?.getD .null
  | none => values

end Relation

/-! ## Objects as relations -/

/-- The rows of the full-text table of a name. -/
def fullTextRows (db : Database) (name : Text) : List Row :=
  match db.relation name with
  | some (.fullText _ _ rows) => rows
  | _ => []

/-- A table as a relation.  A full-text table has a column of its own name, which holds the number
of the reading, and one for the rank of a row in a search, with nothing in it outside a search. -/
def relationOf? (db : Database) : Object → Option Relation
  | .table _ cs rs => some (.ofRows cs rs)
  | .fullText n cs rs =>
    some { Relation.ofRows cs rs with
      hidden := [Relation.constant n rs.length (.int 1),
        Relation.constant "rank".toList rs.length .null] }
  | .shadow owner kind width =>
    some (.ofRows (kind.columns width) (kind.rows (db.fullTextRows owner)))
  | .view .. => none
  | .index .. => none

/-! ## The table of the objects -/

/-- Names between parentheses. -/
def nameList (names : List Text) : Text :=
  '(' :: Text.joinWith [',', ' '] (names.map Sql.quotedName) ++ [')']

/-- The kind of an object, as the engine calls it. -/
def Object.kind : Object → Text
  | .view .. => "view".toList
  | .index .. => "index".toList
  | _ => "table".toList

/-- The table that an object is of: its own name, if it is none of another. -/
def Object.owner : Object → Text
  | .index _ source _ => source
  | o => o.name

/-- The statement that creates an object. -/
def Object.definition : Object → Text
  | .table n cs _ => "CREATE TABLE ".toList ++ Sql.quotedName n ++ [' '] ++ nameList cs
  | .fullText n cs _ =>
    "CREATE VIRTUAL TABLE ".toList ++ Sql.quotedName n ++ " USING fts5".toList ++ nameList cs
  | .shadow owner kind width =>
    "CREATE TABLE '".toList ++ Object.withMarksDoubled (owner ++ kind.suffix) ++ ['\'']
      ++ kind.body width
  | .view n s cs =>
    "CREATE VIEW ".toList ++ Sql.quotedName n ++ " AS SELECT ".toList
      ++ Text.joinWith [',', ' '] (cs.map Sql.quotedName) ++ " FROM ".toList ++ Sql.quotedName s
  | .index n s cs =>
    "CREATE INDEX ".toList ++ Sql.quotedName n ++ " ON ".toList ++ Sql.quotedName s ++ [' ']
      ++ nameList cs

/-- The object has a page of its own in the file. -/
def Object.hasPage : Object → Bool
  | .view .. => false
  | .fullText .. => false
  | _ => true

/-- The columns of the table of the objects. -/
def inventoryColumns : List Text :=
  ["type", "name", "tbl_name", "rootpage", "sql"].map String.toList

/-- The rows of the table of the objects, the next object's page being `page`. -/
def inventoryRows (page : Nat) : List Object → List Row
  | [] => []
  | o :: os =>
    [.text o.kind, .text o.name, .text o.owner, .int (if o.hasPage then page else 0),
      .text o.definition] :: inventoryRows (if o.hasPage then page + 1 else page) os

/-- The table of the objects of a database. -/
def inventory (db : Database) : Relation :=
  .ofRows inventoryColumns (inventoryRows 2 db.objects)

/-- What the engine calls the table of the objects. -/
def inventoryNames : List Text := ["sqlite_master".toList, "sqlite_schema".toList]

/-- What the engine calls the table of the objects that live as long as the connection. -/
def fleetingNames : List Text := ["sqlite_temp_master".toList, "sqlite_temp_schema".toList]

/-- The keys of the indexes of a table. -/
def indexKeys (db : Database) (table : Text) : List (List Text) :=
  db.objects.filterMap fun
    | .index _ source keys => if Text.eqIgnoringAsciiCase source table then some keys else none
    | _ => none

/-- The table of a name. -/
def table? (db : Database) (name : Text) : Option Relation :=
  if inventoryNames.any (Text.eqIgnoringAsciiCase name) then some db.inventory
  else ((db.relation name).bind db.relationOf?).map fun r =>
    { r with accesses := (db.indexKeys name).map r.accessOf }

end PlainSearch.Database
