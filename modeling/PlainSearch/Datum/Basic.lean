/-
  Datum/Basic.lean --- the values that requests, settings and results are made of.

  WHAT THIS FILE IS FOR.  Settings come in from outside without a fixed shape,
  and rows come out of a database with whatever the cells hold.  A `Datum` is
  such a value: nothing, a truth value, an integer of any size, a
  double-precision number, a text, bytes, a list, or a record whose fields stand
  in the order they were given.
-/
import PlainSearch.Number.Notation
import PlainSearch.Text.Quoted

set_option autoImplicit false

namespace PlainSearch

/-- A value without a fixed shape. -/
inductive Datum where
  | null
  | bool (b : Bool)
  | int (n : Int)
  | real (x : Double)
  | text (t : Text)
  | bytes (bs : List UInt8)
  | list (xs : List Datum)
  /-- named values, in the order they were given -/
  | record (fields : List (Text × Datum))
  deriving Repr

/-- Named values, in the order they were given. -/
abbrev Fields : Type := List (Text × Datum)

namespace Fields

/-- The value of a name; of several, the last. -/
def get? (fs : Fields) (name : Text) : Option Datum :=
  (fs.reverse.find? fun f => f.1 = name).map (·.2)

/-- Gives a name a value: in its place if it has one, at the end if it is new. -/
def put : Fields → Text → Datum → Fields
  | [], name, v => [(name, v)]
  | f :: fs, name, v => if f.1 = name then (name, v) :: fs else f :: put fs name v

/-- Names and values paired off; a name that comes again replaces the value it had. -/
def ofPairs (names : List Text) (values : List Datum) : Fields :=
  (names.zip values).foldl (fun fs f => put fs f.1 f.2) []

end Fields

/-! ## Values as text

`shown` is the text of a value by itself, `displayed` the text of a value inside
another one, where texts stand between quotation marks. -/

namespace Datum

mutual

/-- The text of a value inside another value. -/
def displayed : Datum → Text
  | .null => "None".toList
  | .bool b => if b then "True".toList else "False".toList
  | .int n => Text.ofInt n
  | .real x => x.toText
  | .text t => Text.quoted t
  | .bytes bs => Text.quotedBytes bs
  | .list xs => '[' :: displayedItems xs ++ [']']
  | .record fs => '{' :: displayedFields fs ++ ['}']

/-- The items of a list, with commas between them. -/
def displayedItems : List Datum → Text
  | [] => []
  | [x] => displayed x
  | x :: y :: xs => displayed x ++ [',', ' '] ++ displayedItems (y :: xs)

/-- The fields of a record, with commas between them. -/
def displayedFields : List (Text × Datum) → Text
  | [] => []
  | [(k, v)] => Text.quoted k ++ [':', ' '] ++ displayed v
  | (k, v) :: f :: fs =>
    Text.quoted k ++ [':', ' '] ++ displayed v ++ [',', ' '] ++ displayedFields (f :: fs)

end

/-- The text of a value by itself. -/
def shown : Datum → Text
  | .text t => t
  | v => displayed v

end Datum
end PlainSearch
