/-
  Location/Setting.lean --- the settings of an engine in the query of a URL.

  WHAT THIS FILE IS FOR.  The query of a URL may set a few things for the engine.  Each
  dialect knows some keys and the kind of value that goes with each; other keys are
  left to the driver.  A key that is given more than once has a list for its value,
  which is no number.
-/
import PlainSearch.Location.Address
import PlainSearch.Location.Dialect

set_option autoImplicit false

namespace PlainSearch.Location

/-- The kinds of values. -/
inductive SettingKind where
  | truth
  | integer
  | number
  deriving DecidableEq, Repr

/-- What is wrong with the value of a setting. -/
inductive SettingDefect where
  | notTruth (t : Text)
  | notInteger (t : Text) (fault : Integer.NumeralFault)
  | notNumber (t : Text)
  | severalIntegers
  | severalNumbers
  deriving DecidableEq, Repr

/-- What a text says that is no integer, by the way in which it is none. -/
def integerMessage (t : Text) : Integer.NumeralFault → Text
  | .malformed =>
    "invalid literal for int() with base 10: ".toList ++ (Text.quoted t).take 200
  | .tooLong digits => (Fault.longNumeral digits).message

/-- What a defect says. -/
def SettingDefect.message : SettingDefect → Text
  | .notTruth t => "String is not true/false: ".toList ++ Text.quoted t
  | .notInteger t f => integerMessage t f
  | .notNumber t => "could not convert string to float: ".toList ++ Text.quoted t
  | .severalIntegers =>
    "int() argument must be a string, a bytes-like object or a real number, not 'tuple'".toList
  | .severalNumbers =>
    "float() argument must be a string or a real number, not 'tuple'".toList

/-! ## Reading values -/

/-- The truth value that a text stands for, in any case and with blanks around it. -/
def truthOf (t : Text) : Except SettingDefect Bool :=
  let word := Text.lower (Text.trim t)
  if ["true", "yes", "on", "y", "t", "1"].any fun w => w.toList = word then .ok true
  else if ["false", "no", "off", "n", "f", "0"].any fun w => w.toList = word then .ok false
  else .error (.notTruth word)

/-- The text is a number: it reads as a double once its digits are those from 0 to 9 and the
underscores between digits are left out. -/
def isNumber (t : Text) : Bool :=
  let western (c : Char) : Char := ((Text.digitValue? c).map Text.digitChar).getD c
  let groups := Text.splitOn '_' ((Text.trimBy Text.isSpace t).map western)
  let joined := groups.zip (groups.drop 1)
  (joined.all fun p => p.1.getLast?.any Text.isAsciiDigit && p.2.head?.any Text.isAsciiDigit)
    && (Double.ofText? groups.flatten).isSome

/-- The truth value that the values of a key stand for; several count as true. -/
def truthValue : List Text → Except SettingDefect Bool
  | [] => .ok false
  | [t] => truthOf t
  | _ => .ok true

/-- The integer that the values of a key stand for. -/
def integerValue? : List Text → Except SettingDefect (Option Int)
  | [] => .ok none
  | [t] => (Integer.ofNumeral t).mapError (.notInteger t) |>.map some
  | _ => .error .severalIntegers

/-- The values of a key are of a kind. -/
def checkValues (kind : SettingKind) (values : List Text) : Except SettingDefect Unit :=
  match kind, values with
  | .truth, vs => (truthValue vs).map fun _ => ()
  | .integer, vs => (integerValue? vs).map fun _ => ()
  | .number, [] => .ok ()
  | .number, [t] => if isNumber t then .ok () else .error (.notNumber t)
  | .number, _ => .error .severalNumbers

/-! ## The settings of each dialect -/

/-- The keys that a dialect knows, in the order in which they are looked at. -/
def Dialect.settings : Dialect → List (String × SettingKind)
  | .sqlite =>
    [("uri", .truth), ("timeout", .number), ("detect_types", .integer),
      ("check_same_thread", .truth), ("cached_statements", .integer)]
  | .mysql => serverSettings
  | .mariadb => serverSettings
  | .other _ => []
where
  serverSettings : List (String × SettingKind) :=
    [("compress", .truth), ("connect_timeout", .integer), ("read_timeout", .integer),
      ("write_timeout", .integer), ("client_flag", .integer), ("local_infile", .truth),
      ("use_unicode", .truth), ("ssl_check_hostname", .truth)]

/-- The settings in the query of a URL are of the kinds that the dialect asks for. -/
def checkSettings (a : Address) (d : Dialect) : Except SettingDefect Unit :=
  d.settings.forM fun s => checkValues s.2 (a.values s.1.toList)

end PlainSearch.Location
