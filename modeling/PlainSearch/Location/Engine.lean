/-
  Location/Engine.lean --- the engine that a URL names.

  WHAT THIS FILE IS FOR.  Making an engine reads a URL and looks, in this order, at
  its port, at extensions that are asked for, at the dialect and its driver, and, for
  a database in a file, at what has no place in such a URL (a user, a password, a
  host, a port) and at the settings.  The first of these that is wrong is the reason
  why there is no engine.

  The file itself is only opened when the engine is used; what is to be opened then,
  or why there is nothing to open, belongs to the engine (`Engine.opening`).
-/
import PlainSearch.Location.FileUri
import PlainSearch.Location.Setting

set_option autoImplicit false

namespace PlainSearch.Location

/-! ## No engine -/

/-- Why no engine can be made for a URL. -/
inductive UrlError where
  | address (fault : AddressFault)
  | unknownExtension (name : Text)
  | scheme (scheme : Text) (fault : SchemeFault)
  /-- the URL of a file has parts that only a server has -/
  | serverNamed (address : Address)
  | setting (defect : SettingDefect)
  /-- options are given for a file that is not named -/
  | optionsWithoutName
  | other (message : Text)
  deriving DecidableEq, Repr

/-- Why there is no driver for a scheme, as told. -/
def schemeMessage (scheme : Text) : SchemeFault → Text
  | .overlong => "too many values to unpack (expected 2)".toList
  | .unknown => "Can't load plugin: sqlalchemy.dialects:".toList ++ Text.substitute '+' ['.'] scheme
  | .missingModule m => "No module named '".toList ++ m ++ ['\'']

/-- What is wrong with a URL. -/
def UrlError.message : UrlError → Text
  | .address .malformed => "Could not parse SQLAlchemy URL from given URL string".toList
  | .address (.port written f) => integerMessage written f
  | .unknownExtension n => "Can't load plugin: sqlalchemy.plugins:".toList ++ n
  | .scheme s f => schemeMessage s f
  | .serverNamed a =>
    "Invalid SQLite URL: ".toList ++ a.text ++ "\nValid SQLite URL forms are:\n".toList
      ++ " sqlite:///:memory: (or, sqlite://)\n".toList
      ++ " sqlite:///relative/path/to/file.db\n".toList
      ++ " sqlite:////absolute/path/to/file.db".toList
  | .setting d => d.message
  | .optionsWithoutName => "unsupported operand type(s) for +=: 'NoneType' and 'str'".toList
  | .other m => m

/-! ## Engines -/

/-- What comes of opening what an engine is for. -/
inductive Opening where
  | target (t : Target)
  | refused (e : EngineError)
  /-- there is nothing that the engine could open -/
  | impossible (f : OpeningFault)
  deriving DecidableEq, Repr

/-- An engine: its dialect, and what it opens. -/
structure Engine where
  dialect : Dialect
  opening : Opening
  deriving DecidableEq, Repr

namespace Engine

/-- A text as one of several values, as it is shown inside the name of a file. -/
def valueText : List Text → Text
  | [t] => t
  | ts => '(' :: Text.joinWith [',', ' '] (ts.map Text.quoted) ++ [')']

/-- What the name of a file that is taken for a URI adds to the database of its URL: the keys that
are no settings, in order. -/
def uriOptions (a : Address) : Text :=
  let isSetting (key : Text) : Bool :=
    key = "isolation_level".toList || Dialect.sqlite.settings.any fun s => s.1.toList = key
  match Address.sortedQuery (a.query.filter fun q => !isSetting q.1) with
  | [] => []
  | qs => '?' :: Text.joinWith ['&'] (qs.map fun q => q.1 ++ '=' :: valueText q.2)

/-- The isolation level that a URL sets is known. -/
def checkIsolation (a : Address) : Except OpeningFault Unit :=
  match a.values "isolation_level".toList with
  | [] => .ok ()
  | vs =>
    let level := valueText vs
    if level.contains '\x00' then .error .nullInIsolation
    else if ["", "deferred", "immediate", "exclusive"].any fun l =>
        Text.eqIgnoringAsciiCase l.toList level then .ok ()
    else .error .unknownIsolation

/-- A setting can be handed to the engine. -/
def checkBounded (a : Address) (key : String) : Except OpeningFault Unit :=
  match integerValue? (a.values key.toList) with
  | .ok (some n) =>
    if -Integer.halfWordBound ≤ n ∧ n < Integer.halfWordBound then .ok ()
    else .error .settingBeyondEngine
  | _ => .ok ()

/-- What is handed to the engine along with the name of a file can be. -/
def checkHanded (a : Address) (name : Option Text) : Except OpeningFault Unit := do
  match name with
  | none => .error .noName
  | some n => if n.contains '\x00' then .error .nullInName else .ok ()
  checkBounded a "detect_types"
  checkIsolation a
  checkBounded a "cached_statements"

/-- What is opened for a database in a file, whose name is taken for a URI if `isUri`. -/
def openingOf (a : Address) (isUri : Bool) : Except UrlError Opening :=
  let opened (name : Option Text) : Opening :=
    match checkHanded a name, name with
    | .error f, _ => .impossible f
    | .ok _, none => .target .memory
    | .ok _, some n =>
      if isUri then
        match FileUri.target n with
        | .ok t => .target t
        | .error e => .refused e
      else .target (Target.named n true)
  if !isUri then .ok (opened (some (a.database.getD [])))
  else match a.database, uriOptions a with
    | none, [] => .ok (opened none)
    | none, _ => .error .optionsWithoutName
    | some d, options => .ok (opened (some (d ++ options)))

/-- The engine for a database in a file. -/
def ofFile (a : Address) : Except UrlError Engine := do
  let isNamed (t : Option Text) : Bool := t.any (· ≠ [])
  if isNamed a.user || isNamed a.password || isNamed a.host || a.port.any (· ≠ 0) then
    .error (.serverNamed a)
  (checkSettings a .sqlite).mapError .setting
  let isUri := (truthValue (a.values "uri".toList)).toOption.getD false
  return ⟨.sqlite, ← openingOf a isUri⟩

/-- The engine for a URL. -/
def ofUrl (url : Text) : Except UrlError Engine := do
  let a ← (Address.read url).mapError .address
  match a.values "plugin".toList with
  | [] => .ok ()
  | extension :: _ => .error (.unknownExtension extension)
  let dialect ← (dialectOf a.scheme).mapError (.scheme a.scheme)
  let a := { a with query := a.query.filter fun q => q.1 ≠ "plugins".toList }
  match dialect with
  | .sqlite => ofFile a
  | d =>
    (checkSettings a d).mapError .setting
    return ⟨d, .target .memory⟩

end Engine
end PlainSearch.Location
