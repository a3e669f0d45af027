/-
  Database/Change.lean --- changing a database.

  WHAT THIS FILE IS FOR.  Objects are created, rows are put into tables, and tables
  are dropped.  The engine refuses a change that would leave two objects with one
  name, a table with two columns of one name, or a row that does not fit, and it
  keeps names that begin with sqlite_ for itself.  A refused change changes nothing.
-/
import PlainSearch.Database.Engine

set_option autoImplicit false

namespace PlainSearch.Database

/-! ## Creating -/

/-- A name that the engine keeps for itself. -/
def isReserved (name : Text) : Bool :=
  Text.startsWith "sqlite_".toList (name.map Text.asciiLowerChar)

/-- A column whose name another one before it has. -/
def repeated? : List Text → Option Text
  | [] => none
  | c :: cs =>
    match cs.find? (Text.eqIgnoringAsciiCase c) with
    | some d => some d
    | none => repeated? cs

/-- No table, view or index has a name, which stands in the statement as `written`. -/
def checkFree (db : Database) (name written : Text) : Except EngineError Unit :=
  match db.relation name with
  | some (.view ..) => .error (.viewExists written)
  | some _ => .error (.tableExists written)
  | none => if (db.index? name).isSome then .error (.nameOfIndex name) else .ok ()

/-- A table, view or full-text table can be created under a name. -/
def checkName (db : Database) (name : Text) : Except EngineError Unit :=
  if isReserved name then .error (.reservedName name) else checkFree db name (Sql.quotedName name)

/-- The columns of a table are there and have different names. -/
def checkColumns (columns : List Text) : Except EngineError Unit :=
  if columns = [] then .error (.syntaxNear [')'])
  else match repeated? columns with
    | some c => .error (.repeatedColumn c)
    | none => .ok ()

/-- No column of a full-text table has a name that such a table needs for itself. -/
def checkColumnNames (columns : List Text) : Except EngineError Unit :=
  let own := ["rank".toList, "rowid".toList]
  match columns.find? fun c => own.contains (c.map Text.asciiLowerChar) with
  | some c => .error (.reservedColumn c)
  | none => .ok ()

/-- The tables that are kept for a full-text table can be created. -/
def checkShadows (db : Database) (name : Text) : Except EngineError Unit :=
  Shadow.all.forM fun kind =>
    let told := Object.withMarksDoubled (name ++ kind.suffix)
    (checkFree db (name ++ kind.suffix) ('\'' :: told ++ ['\''])).mapError (.shadowNotMade told)

/-- The columns of a full-text table are there and have different names, which are not that of the
table either. -/
def checkFullTextColumns (name : Text) (columns : List Text) : Except EngineError Unit :=
  if columns = [] || (repeated? (name :: columns)).isSome then .error (.notConstructed name)
  else .ok ()

/-- Why something cannot be done to what is no object: it is a table of the objects, or it is not
there, which is told of it as `written`. -/
def notThere {α : Type} (name written : Text) (act : String) : Except EngineError α :=
  if inventoryNames.any (Text.eqIgnoringAsciiCase name) then
    .error (.keptTable "sqlite_master".toList act.toList)
  else if fleetingNames.any (Text.eqIgnoringAsciiCase name) then
    .error (.keptTable "sqlite_temp_master".toList act.toList)
  else .error (.noSuchTable written)

/-- An index of a table can be made under a name. -/
def checkIndex (db : Database) (name source : Text) (columns : List Text) :
    Except EngineError Unit :=
  if columns = [] then .error (.syntaxNear [')'])
  else match db.relation source with
    | none => notThere source ("main.".toList ++ source) "indexed"
    | some (.view ..) => .error .viewIndexed
    | some (.fullText ..) => .error .fullTextIndexed
    | some _ =>
      if isReserved name then .error (.reservedName name)
      else if (db.relation name).isSome then .error (.nameOfTable name)
      else if (db.index? name).isSome then .error (.indexExists name)
      else .ok ()

/-- Rows have as many values as a table has columns. -/
def checkRows (table : Text) (columns : List Text) (rows : List Row) : Except EngineError Unit :=
  match rows.find? fun row => row.length ≠ columns.length with
  | some [] => .error (.syntaxNear [')'])
  | some row => .error (.rowWidth table columns.length row.length)
  | none => .ok ()

/-- The names in a statement have no null character. -/
def checkCharacters (names : List Text) : Except EngineError Unit :=
  if names.any (·.contains '\x00') then .error .nullCharacter else .ok ()

/-- An object can be created. -/
def checkObject (db : Database) : Object → Except EngineError Unit
  | .table n cs rs => do
    checkCharacters (n :: cs)
    checkName db n
    checkColumns cs
    checkRows n cs rs
  | .fullText n cs rs => do
    checkCharacters (n :: cs)
    checkName db n
    checkColumnNames cs
    checkShadows db n
    checkFullTextColumns n cs
    checkRows n cs rs
  | .view n s cs => do
    checkCharacters (n :: s :: cs)
    if cs = [] then .error (.syntaxNear "FROM".toList) else checkName db n
  | .index n s cs => do
    checkCharacters (n :: s :: cs)
    checkIndex db n s cs
  | .shadow owner kind _ => checkName db (owner ++ kind.suffix)

/-- Creates an object after those that are there; a full-text table is followed by those kept for
it. -/
def create (db : Database) (o : Object) : Except EngineError Database :=
  (checkObject db o).map fun _ =>
    match o with
    | .fullText n cs rs => ⟨db.objects ++ .fullText n cs rs :: Object.shadowsOf n cs.length⟩
    | o => ⟨db.objects ++ [o]⟩

/-- The database of objects that are created one after the other. -/
def ofObjects (os : List Object) : Except EngineError Database := os.foldlM create {}

/-! ## Filling and dropping -/

/-- Puts rows at the end of a table. -/
def insert (db : Database) (name : Text) (rows : List Row) : Except EngineError Database :=
  let kept := rows.map (·.map stored)
  let filled (cs : List Text) : Except EngineError Database :=
    (checkRows name cs rows).map fun _ => ⟨db.objects.map fun
      | .table n cs rs => if Text.eqIgnoringAsciiCase n name then .table n cs (rs ++ kept)
        else .table n cs rs
      | .fullText n cs rs => if Text.eqIgnoringAsciiCase n name then .fullText n cs (rs ++ kept)
        else .fullText n cs rs
      | o => o⟩
  if rows = [] then .ok db
  else match db.relation name with
    | some (.table _ cs _) => filled cs
    | some (.fullText _ cs _) => filled cs
    | some (.view n ..) => (db.relation? n).bind fun _ => .error (.viewFilled n)
    | _ => notThere name name "modified"

/-- Removes a table, with its indexes and with what the engine keeps for it. -/
def drop (db : Database) (name : Text) : Except EngineError Database :=
  match db.relation name with
  | some (.view n ..) => .error (.viewDropped n)
  | some _ => .ok ⟨db.objects.filter fun o => !o.belongsTo name⟩
  | none => notThere name name "dropped"

end Database
end PlainSearch
