/-
  Validation/Basic.lean --- checking a value against the shape that is asked for.

  WHAT THIS FILE IS FOR.  Values from outside are checked before they are used.  A
  check yields the value in its own type, or every `Problem` with it: what is wrong
  and where.  Problems come in the order of the fields, those inside a field before
  those of the next one.

  Texts are taken as they are, and bytes as the text that they stand for.  Integers
  are taken generously: truth values count as 1 and 0, whole numbers of either kind
  count, and so do texts that stand for an integer.
-/
import PlainSearch.Number.Integer
import PlainSearch.Text.Utf8

set_option autoImplicit false

namespace PlainSearch

/-- A step on the way to a part of a value. -/
inductive Step where
  | field (name : Text)
  | item (index : Nat)
  deriving DecidableEq, Repr

/-- What is wrong with a value. -/
inductive Defect where
  | missing
  | notText
  | notUnicode
  | emptyText
  | notFixedList
  | notList
  | notRecord
  | notModel (name : Text)
  | notColumnType
  | notInteger
  | malformedInteger
  /-- the integer is too large to be read -/
  | longInteger
  | fraction
  | notFinite
  | notPositive
  deriving DecidableEq, Repr

namespace Defect

/-- The name of the kind of a defect. -/
def code : Defect → Text
  | .missing => "missing".toList
  | .notText => "string_type".toList
  | .notUnicode => "string_unicode".toList
  | .emptyText => "string_too_short".toList
  | .notFixedList => "tuple_type".toList
  | .notList => "list_type".toList
  | .notRecord => "dict_type".toList
  | .notModel _ => "model_type".toList
  | .notColumnType => "enum".toList
  | .notInteger => "int_type".toList
  | .malformedInteger => "int_parsing".toList
  | .longInteger => "int_parsing_size".toList
  | .fraction => "int_from_float".toList
  | .notFinite => "finite_number".toList
  | .notPositive => "greater_than_equal".toList

/-- What a defect says to the user. -/
def message : Defect → Text
  | .missing => "Field required".toList
  | .notText => "Input should be a valid string".toList
  | .notUnicode =>
    "Input should be a valid string, unable to parse raw data as a unicode string".toList
  | .emptyText => "String should have at least 1 character".toList
  | .notFixedList => "Input should be a valid tuple".toList
  | .notList => "Input should be a valid list".toList
  | .notRecord => "Input should be a valid dictionary".toList
  | .notModel name => "Input should be a valid dictionary or instance of ".toList ++ name
  | .notColumnType => "Input should be 'integer', 'float', 'timestamp' or 'text'".toList
  | .notInteger => "Input should be a valid integer".toList
  | .malformedInteger =>
    "Input should be a valid integer, unable to parse string as an integer".toList
  | .longInteger =>
    "Unable to parse input string as an integer, exceeded maximum size".toList
  | .fraction => "Input should be a valid integer, got a number with a fractional part".toList
  | .notFinite => "Input should be a finite number".toList
  | .notPositive => "Input should be greater than or equal to 1".toList

end Defect

/-- A defect, and where it is. -/
structure Problem where
  /-- the way to it, from the outside in -/
  place : List Step
  defect : Defect
  deriving DecidableEq, Repr

/-- A checked value, or every problem with it. -/
abbrev Checked (α : Type) : Type := Except (List Problem) α

namespace Checked

variable {α β : Type}

/-- A value with a defect. -/
def defect (d : Defect) : Checked α := .error [⟨[], d⟩]

/-- The problems of a part, seen from the whole. -/
def within (s : Step) : Checked α → Checked α
  | .ok a => .ok a
  | .error ps => .error (ps.map fun p => { p with place := s :: p.place })

/-- Two parts; the problems of the first come before those of the second. -/
def both : Checked α → Checked β → Checked (α × β)
  | .ok a, .ok b => .ok (a, b)
  | .ok _, .error qs => .error qs
  | .error ps, .ok _ => .error ps
  | .error ps, .error qs => .error (ps ++ qs)

/-- The items of a list from the index `n` on. -/
def items (check : Datum → Checked α) : Nat → List Datum → Checked (List α)
  | _, [] => .ok []
  | n, v :: vs =>
    (both (within (.item n) (check v)) (items check (n + 1) vs)).map fun p => p.1 :: p.2

/-- A field that has to be there. -/
def required (fs : Fields) (name : Text) (check : Datum → Checked α) : Checked α :=
  within (.field name) (match fs.get? name with
    | some v => check v
    | none => defect .missing)

/-- A field that may be missing. -/
def optional (fs : Fields) (name : Text) (fallback : α) (check : Datum → Checked α) : Checked α :=
  match fs.get? name with
  | some v => within (.field name) (check v)
  | none => .ok fallback

end Checked

namespace Datum

variable {α : Type}

/-- A text, which may be given as bytes. -/
def checkText : Datum → Checked Text
  | .text t => .ok t
  | .bytes bs =>
    match Utf8.decode? bs with
    | some t => .ok t
    | none => Checked.defect .notUnicode
  | _ => Checked.defect .notText

/-- A list of a fixed kind of items. -/
def checkFixedList (check : Datum → Checked α) : Datum → Checked (List α)
  | .list xs => Checked.items check 0 xs
  | _ => Checked.defect .notFixedList

/-- A list. -/
def checkList (check : Datum → Checked α) : Datum → Checked (List α)
  | .list xs => Checked.items check 0 xs
  | _ => Checked.defect .notList

/-- A record of any fields. -/
def checkRecord : Datum → Checked Fields
  | .record fs => .ok fs
  | _ => Checked.defect .notRecord

/-- A record of a kind, whose fields are checked further. -/
def checkModel (name : Text) (check : Fields → Checked α) : Datum → Checked α
  | .record fs => check fs
  | _ => Checked.defect (.notModel name)

/-- A value that may be missing. -/
def checkOptional (check : Datum → Checked α) : Datum → Checked (Option α)
  | .null => .ok none
  | v => (check v).map some

/-- An integer that is written as a text. -/
def checkNumeral (t : Text) : Checked Int :=
  match Integer.ofSetting t with
  | .ok n => .ok n
  | .error .malformed => Checked.defect .malformedInteger
  | .error .tooLong => Checked.defect .longInteger

/-- An integer.  A double counts if it is whole and strictly between the ends of the signed
64-bit integers. -/
def checkInteger : Datum → Checked Int
  | .bool b => .ok (if b then 1 else 0)
  | .int n => .ok n
  | .real (.finite s e f) =>
    match (Double.finite s e f).toInt? with
    | none => Checked.defect .fraction
    | some n =>
      if -Integer.wordBound < n ∧ n < Integer.wordBound then .ok n
      else Checked.defect .longInteger
  | .real _ => Checked.defect .notFinite
  | .text t => checkNumeral t
  | .bytes bs =>
    match Utf8.decode? bs with
    | some t => checkNumeral t
    | none => Checked.defect .malformedInteger
  | _ => Checked.defect .notInteger

end Datum
end PlainSearch
