/-
  Database/Engine.lean --- what the engine answers, and what it refuses.

  WHAT THIS FILE IS FOR.  Of the database engine the program uses three things: the
  list of tables whose name has a pattern, the columns of a table, and the values
  of a column.  This file says what the engine gives for each, or why it refuses.

  RULES OF THE ENGINE.
    * A view has the columns it was made of, under the names that its source has for
      them now.  A name that its source does not know is a text.  Of two columns
      with one name the later one gets a number.
    * A view may be made of a view, but not, over whatever way, of itself.
    * In a statement, a name that is no column is the number of the row if it is
      called rowid, oid or _rowid_, which is never missing; a name between double
      quotes is a text; any other name is refused.
-/
import PlainSearch.Database.Relation
import PlainSearch.Sql.Keyword
import PlainSearch.Sql.Like

set_option autoImplicit false

namespace PlainSearch.Database

/-- The names that a pattern selects among the tables. -/
def tablesLike (db : Database) (pattern : Text) : List Text :=
  db.tableNames.filter (Sql.Like.holds pattern)

/-! ## Views -/

/-- A view: its name, what it is made of, and the columns it asks for there. -/
structure View where
  name : Text
  /-- the name of the table or view it is made of -/
  source : Text
  columns : List Text
  deriving DecidableEq, Repr

/-- The views of a database. -/
def views (db : Database) : List View :=
  db.objects.filterMap fun
    | .view n s cs => some ⟨n, s, cs⟩
    | _ => none

/-- The view of a name. -/
def viewNamed? (vs : List View) (name : Text) : Option View :=
  vs.find? fun v => Text.eqIgnoringAsciiCase v.name name

/-- The views of other names. -/
def viewsBut (vs : List View) (name : Text) : List View :=
  vs.filter fun v => !Text.eqIgnoringAsciiCase v.name name

/-- Leaving out a view that is there leaves fewer. -/
theorem length_viewsBut_lt {vs : List View} {name : Text} {v : View}
    (h : viewNamed? vs name = some v) : (viewsBut vs name).length < vs.length :=
  List.length_filter_lt_length_iff_exists.2
    ⟨v, List.mem_of_find?_eq_some h, by simpa using List.find?_some h⟩

/-- A name without a number behind a colon at its end. -/
def unnumbered (name : Text) : Text :=
  match name.reverse.dropWhile Text.isAsciiDigit with
  | ':' :: r => r.reverse
  | _ => name

/-- A name that none of the names taken has: the name itself, or else the name with the least
number that makes it new. -/
def newName (taken : List Text) (name : Text) : Text :=
  let isNew (n : Text) : Bool := !taken.any (Text.eqIgnoringAsciiCase n)
  if isNew name then name
  else
    let numbered := (List.range (taken.length + 1)).map fun i =>
      unnumbered name ++ ':' :: Text.ofNat (i + 1)
    (numbered.find? isNew).getD name

/-- Columns under names that differ, after columns whose names are taken.  A column that would be
called like a truth value is called by its place. -/
def withNewNames (taken : List Text) : List Attribute → List Attribute
  | [] => []
  | a :: as =>
    let isTruth := ["true".toList, "false".toList].any (Text.eqIgnoringAsciiCase a.name)
    let name := if isTruth then "column".toList ++ Text.ofNat (taken.length + 1) else a.name
    let fresh := newName taken name
    { a with name := fresh } :: withNewNames (taken ++ [fresh]) as

/-- A column that a view asks of its source. -/
def viewColumn (source : Relation) (name : Text) : Attribute :=
  match source.meaning name with
  | .attribute a => a
  | .rowNumber => ⟨"rowid".toList, source.rowNumbers, none⟩
  | .unknown => Relation.constant (Sql.quotedName name) source.height (.text name)

/-- The columns and rows of a view of a relation. -/
def viewed (source : Relation) (columns : List Text) : Relation where
  attributes := withNewNames [] (columns.map (viewColumn source))
  rowNumbers := List.replicate source.height .null
  width := source.width
  accesses := source.accesses

/-- What a name stands for, if it stands for anything.  Only the views in `unopened` are looked
into; the name of any other view leads back to where the search came from. -/
def relationAmong (db : Database) (unopened : List View) (name : Text) :
    Except EngineError (Option Relation) :=
  match db.table? name with
  | some r => .ok (some r)
  | none =>
    match _h : viewNamed? unopened name with
    | some v =>
      match relationAmong db (viewsBut unopened name) v.source with
      | .error e => .error e
      | .ok none => .error (.noSuchTable ("main.".toList ++ v.source))
      | .ok (some r) => .ok (some (viewed r v.columns))
    | none =>
      match viewNamed? db.views name with
      | some v => .error (.circularView v.name)
      | none => .ok none
  termination_by unopened.length
  decreasing_by exact length_viewsBut_lt _h

/-- What a name stands for in a statement, if it stands for anything. -/
def relation? (db : Database) (name : Text) : Except EngineError (Option Relation) :=
  if fleetingNames.any (Text.eqIgnoringAsciiCase name) then
    .ok (some (.ofRows inventoryColumns []))
  else relationAmong db db.views name

/-! ## Answers -/

/-- The columns of a table, none if there is no such table. -/
def columnsOf (db : Database) (table : Text) : Except EngineError (List Text) :=
  match Sql.reading .described table with
  | .name n =>
    match db.relation? n with
    | .error e => .error e
    | .ok none => .ok []
    | .ok (some r) => .ok (r.attributes.map (·.name))
  | .refusedAt w => .error (.syntaxNear w)
  | _ => .ok []

/-- The values of a column of a relation that are not missing. -/
def presentValues (r : Relation) (column : Text) : Except EngineError (List Datum) :=
  match Sql.reading .value column with
  | .name n =>
    match r.meaning n with
    | .attribute a => .ok ((r.inReadingOrder a.origin a.values).filter isPresent)
    | .rowNumber => .ok (r.inReadingOrder none r.rowNumbers)
    | .unknown =>
      if Sql.isBare column then .error (.noSuchColumn n)
      else .ok (List.replicate r.height (.text n))
  | .nothing => .ok []
  | .truth b => .ok (List.replicate r.height (.int (if b then 1 else 0)))
  | .refusedAt w => .error (.syntaxNear w)

/-- The values of a column of a table that are not missing. -/
def columnValues (db : Database) (table column : Text) : Except EngineError (List Datum) :=
  match Sql.reading .value column, Sql.reading .source table with
  | .refusedAt w, _ => .error (.syntaxNear w)
  | _, .refusedAt w => .error (.syntaxNear w)
  | _, .name n =>
    match db.relation? n with
    | .error e => .error e
    | .ok none => .error (.noSuchTable n)
    | .ok (some r) => presentValues r column
  | _, _ => .error (.noSuchTable table)

/-- A database as its engine reads it. -/
def reader (db : Database) : Reader where
  tablesLike pattern := .ok (db.tablesLike pattern)
  columnsOf := db.columnsOf
  columnValues := db.columnValues

end PlainSearch.Database
