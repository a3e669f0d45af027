/-
  Fault.lean --- everything that can go wrong, by cause.

  WHAT THIS FILE IS FOR.  A `SearchError` is a failure the program knows how to
  report: it has a kind, a message and a context of named values.  A `Fault` is
  any failure of an operation: one of these, or one of those that arise in the
  reading of numbers, in the splitting at markers, in handing a number or the name of
  a file to the database engine, in putting a row under the names of its columns, and in
  finding a home directory or a file.
-/
import PlainSearch.Datum.Basic

set_option autoImplicit false

namespace PlainSearch

/-- A failure with a report. -/
inductive SearchError where
  | general (message : Text) (context : Fields)
  | connection (message : Text) (context : Fields)
  /-- the table behind a companion is missing or has no columns -/
  | tableNotFound (table : Text) (companion : Option Text)
  | query (message : Text) (sql : Option Text)
  deriving Repr

namespace SearchError

/-- The name of the kind of an error in reports. -/
def kind : SearchError → Text
  | .general .. => "NLFTSError".toList
  | .connection .. => "ConnectionError".toList
  | .tableNotFound .. => "TableNotFoundError".toList
  | .query .. => "QueryError".toList

/-- An optional text counts as given only if it is not empty. -/
def given? : Option Text → Option Text
  | some [] => none
  | o => o

/-- The message of an error. -/
def message : SearchError → Text
  | .general m _ => m
  | .connection m _ => m
  | .tableNotFound table companion =>
    match given? companion with
    | some m => "Table '".toList ++ table ++ "' referenced by mirror '".toList ++ m
        ++ "' does not exist or has no columns.".toList
    | none => "Table '".toList ++ table ++ "' does not exist or has no columns.".toList
  | .query m _ => m

/-- An optional text as a value. -/
def optional : Option Text → Datum
  | some t => .text t
  | none => .null

/-- The named values that come with an error. -/
def context : SearchError → Fields
  | .general _ c => c
  | .connection _ c => c
  | .tableNotFound table companion =>
    [("table_name".toList, .text table), ("mirror_name".toList, optional companion)]
  | .query _ sql =>
    match given? sql with
    | some s => [("sql".toList, .text s)]
    | none => []

/-- The report of an error. -/
def report (e : SearchError) : Datum :=
  .record [("error".toList, .text e.kind), ("message".toList, .text e.message),
    ("context".toList, .record e.context)]

end SearchError

/-- Why there is nothing that a database engine could be told to open. -/
inductive OpeningFault where
  | noName
  | nullInName
  /-- a setting is outside the engine's signed 32-bit integers -/
  | settingBeyondEngine
  | nullInIsolation
  | unknownIsolation
  deriving DecidableEq, Repr

/-- What such a fault says. -/
def OpeningFault.message : OpeningFault → Text
  | .noName => "expected str, bytes or os.PathLike object, not NoneType".toList
  | .nullInName => "embedded null byte".toList
  | .settingBeyondEngine => "Python int too large to convert to C int".toList
  | .nullInIsolation => "embedded null character".toList
  | .unknownIsolation =>
    "isolation_level string must be '', 'DEFERRED', 'IMMEDIATE', or 'EXCLUSIVE'".toList

/-- Why the system does not tell what there is at a path: its number for the error, and its words. -/
structure SystemError where
  number : Nat
  reason : Text
  deriving DecidableEq, Repr

namespace SystemError

def permissionDenied : SystemError := ⟨13, "Permission denied".toList⟩

/-- What such an error says of a path. -/
def message (e : SystemError) (path : Text) : Text :=
  "[Errno ".toList ++ Text.ofNat e.number ++ "] ".toList ++ e.reason ++ ": ".toList
    ++ Text.quoted path

end SystemError

/-- The greatest number of digits of a numeral that is read as a number. -/
def numeralLimit : Nat := 4300

/-- A failure of an operation. -/
inductive Fault where
  | search (e : SearchError)
  | emptyMarker
  /-- a numeral of more digits than `numeralLimit` -/
  | longNumeral (digits : Nat)
  /-- a row limit outside the engine's signed 64-bit integers -/
  | limitBeyondEngine
  | homeUnknown
  /-- a path of which the system does not tell whether there is a file -/
  | lookup (e : SystemError) (path : Text)
  /-- a row with fewer values than there are columns, or with more -/
  | unevenRow (isShorter : Bool)
  | opening (f : OpeningFault)
  deriving Repr

namespace Fault

/-- The message of a failure. -/
def message : Fault → Text
  | .search e => e.message
  | .emptyMarker => "empty separator".toList
  | .longNumeral digits =>
    "Exceeds the limit (".toList ++ Text.ofNat numeralLimit
      ++ " digits) for integer string conversion: value has ".toList ++ Text.ofNat digits
      ++ " digits; use sys.set_int_max_str_digits() to increase the limit".toList
  | .limitBeyondEngine => "Python int too large to convert to SQLite INTEGER".toList
  | .homeUnknown => "Could not determine home directory.".toList
  | .lookup e p => e.message p
  | .unevenRow isShorter =>
    "zip() argument 2 is ".toList ++ (if isShorter then "shorter" else "longer").toList
      ++ " than argument 1".toList
  | .opening f => f.message

/-- The report of a failure: that of a `SearchError`, or else its message alone. -/
def report : Fault → Datum
  | .search e => e.report
  | f => .record [("error".toList, .text f.message)]

end Fault
end PlainSearch
