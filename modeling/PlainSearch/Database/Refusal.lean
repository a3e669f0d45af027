/-
  Database/Refusal.lean --- why a database engine refuses something.

  WHAT THIS FILE IS FOR.  An engine refuses to open a file, to run a statement, or
  to change a database.  A refusal has a cause, of which the engine's kind, its
  reason and the place in the manual are told.
-/
import PlainSearch.Text.Digit

set_option autoImplicit false

namespace PlainSearch

/-- Why the engine refuses something. -/
inductive EngineError where
  | noSuchTable (name : Text)
  | noSuchColumn (name : Text)
  /-- a view is made of itself -/
  | circularView (name : Text)
  | syntaxNear (word : Text)
  | nullCharacter
  | notADatabase
  | cannotOpen
  /-- a file is asked for with an option that has no such value -/
  | noSuchOption (kind value : Text)
  | foreignMachine (name : Text)
  | reservedName (name : Text)
  | tableExists (written : Text)
  | viewExists (written : Text)
  | indexExists (name : Text)
  | nameOfTable (name : Text)
  | nameOfIndex (name : Text)
  | repeatedColumn (name : Text)
  | reservedColumn (name : Text)
  | notConstructed (name : Text)
  /-- a table that the engine keeps for a full-text table cannot be made -/
  | shadowNotMade (table : Text) (cause : EngineError)
  /-- the table of the objects is the engine's own -/
  | keptTable (name act : Text)
  | viewIndexed
  | fullTextIndexed
  | viewDropped (name : Text)
  | viewFilled (name : Text)
  | rowWidth (table : Text) (columns values : Nat)
  /-- another refusal, with its kind, its reason and its place in the manual -/
  | other (kind reason help : Text)
  deriving DecidableEq, Repr

namespace EngineError

/-- The engine's reason. -/
def reason : EngineError → Text
  | .noSuchTable n => "no such table: ".toList ++ n
  | .noSuchColumn n => "no such column: ".toList ++ n
  | .circularView n => "view ".toList ++ n ++ " is circularly defined".toList
  | .syntaxNear w => "near \"".toList ++ w ++ "\": syntax error".toList
  | .nullCharacter => "the query contains a null character".toList
  | .notADatabase => "file is not a database".toList
  | .cannotOpen => "unable to open database file".toList
  | .noSuchOption k v => "no such ".toList ++ k ++ ": ".toList ++ v
  | .foreignMachine n => "invalid uri authority: ".toList ++ n
  | .reservedName n => "object name reserved for internal use: ".toList ++ n
  | .tableExists n => "table ".toList ++ n ++ " already exists".toList
  | .viewExists n => "view ".toList ++ n ++ " already exists".toList
  | .indexExists n => "index ".toList ++ n ++ " already exists".toList
  | .nameOfTable n => "there is already a table named ".toList ++ n
  | .nameOfIndex n => "there is already an index named ".toList ++ n
  | .repeatedColumn n => "duplicate column name: ".toList ++ n
  | .reservedColumn n => "reserved fts5 column name: ".toList ++ n
  | .notConstructed n => "vtable constructor failed: ".toList ++ n
  | .shadowNotMade t c =>
    "fts5: error creating shadow table ".toList ++ t ++ ": ".toList ++ c.reason
  | .keptTable n act => "table ".toList ++ n ++ " may not be ".toList ++ act
  | .viewIndexed => "views may not be indexed".toList
  | .fullTextIndexed => "virtual tables may not be indexed".toList
  | .viewDropped n => "use DROP VIEW to delete view ".toList ++ n
  | .viewFilled n => "cannot modify ".toList ++ n ++ " because it is a view".toList
  | .rowWidth t c v =>
    "table ".toList ++ t ++ " has ".toList ++ Text.ofNat c ++ " columns but ".toList
      ++ Text.ofNat v ++ " values were supplied".toList
  | .other _ reason _ => reason

/-- The engine's name for the kind of a refusal. -/
def kind : EngineError → Text
  | .notADatabase => "DatabaseError".toList
  | .nullCharacter => "ProgrammingError".toList
  | .other kind _ _ => kind
  | _ => "OperationalError".toList

/-- Where the manual explains the kind of a refusal. -/
def help : EngineError → Text
  | .notADatabase => "4xp6".toList
  | .nullCharacter => "f405".toList
  | .other _ _ help => help
  | _ => "e3q8".toList

/-- A refusal as messages tell it: kind and reason, the statement and its parameters as far as
there are any, and a reference to the manual. -/
def describe (e : EngineError) (statement parameters : Option Text) : Text :=
  let note (label : Text) : Option Text → Text
    | some t => "\n[".toList ++ label ++ ": ".toList ++ t ++ [']']
    | none => []
  "(sqlite3.".toList ++ e.kind ++ ") ".toList ++ e.reason ++ note "SQL".toList statement
    ++ note "parameters".toList parameters
    ++ "\n(Background on this error at: https://sqlalche.me/e/21/".toList ++ e.help ++ [')']

end EngineError
end PlainSearch
