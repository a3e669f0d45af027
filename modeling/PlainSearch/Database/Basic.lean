/-
  Database/Basic.lean --- the objects of a database.

  WHAT THIS FILE IS FOR.  A database is a list of objects in the order in which
  they were created: tables with their rows, full-text tables, views of a table and
  indexes.  Columns have no declared type, so cells hold whatever was put into
  them.  A full-text table is followed by the tables that the engine keeps for it
  (`Shadow`), whose rows are not held here: they follow from its own.

  Names of tables and columns are found up to the case of ASCII letters and kept as
  declared.
-/
import PlainSearch.Database.Shadow
import PlainSearch.Text.LowerCase

set_option autoImplicit false

namespace PlainSearch.Database

/-- An object of a database. -/
inductive Object where
  | table (name : Text) (columns : List Text) (rows : List Row)
  | fullText (name : Text) (columns : List Text) (rows : List Row)
  /-- a table that the engine keeps for the full-text table `owner` of so many columns -/
  | shadow (owner : Text) (kind : Shadow) (width : Nat)
  /-- columns read from a table or a view, under a name of their own -/
  | view (name source : Text) (columns : List Text)
  | index (name source : Text) (columns : List Text)
  deriving Repr

namespace Object

/-- The name of an object. -/
def name : Object → Text
  | .table n .. => n
  | .fullText n .. => n
  | .shadow owner kind _ => owner ++ kind.suffix
  | .view n .. => n
  | .index n .. => n

/-- The object is listed as a table. -/
def isTable : Object → Bool
  | .table .. => true
  | .fullText .. => true
  | .shadow .. => true
  | .view .. => false
  | .index .. => false

/-- The object has a name, up to the case of ASCII letters. -/
def isNamed (name : Text) (o : Object) : Bool := Text.eqIgnoringAsciiCase o.name name

/-- The object goes when the table `name` goes. -/
def belongsTo (name : Text) : Object → Bool
  | .table n .. => Text.eqIgnoringAsciiCase n name
  | .fullText n .. => Text.eqIgnoringAsciiCase n name
  | .shadow owner .. => Text.eqIgnoringAsciiCase owner name
  | .index _ source _ => Text.eqIgnoringAsciiCase source name
  | .view .. => false

/-- A text in which single quotation marks are doubled. -/
def withMarksDoubled (t : Text) : Text := Text.substitute '\'' ['\'', '\''] t

/-- The tables that the engine keeps for a full-text table of so many columns. -/
def shadowsOf (owner : Text) (width : Nat) : List Object :=
  Shadow.all.map fun kind => .shadow owner kind width

end Object

end Database

/-- The objects of a database, in the order in which they were created. -/
structure Database where
  objects : List Database.Object := []
  deriving Repr

namespace Database

/-- The names of the tables, in the order in which they were created. -/
def tableNames (db : Database) : List Text := (db.objects.filter Object.isTable).map Object.name

/-- The object of a name that is no index. -/
def relation (db : Database) (name : Text) : Option Object :=
  db.objects.find? fun
    | .index .. => false
    | o => o.isNamed name

/-- The index of a name. -/
def index? (db : Database) (name : Text) : Option Object :=
  db.objects.find? fun
    | .index n .. => Text.eqIgnoringAsciiCase n name
    | _ => false

end Database
end PlainSearch
