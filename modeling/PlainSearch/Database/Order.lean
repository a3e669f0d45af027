/-
  Database/Order.lean --- the order of values in an index.

  WHAT THIS FILE IS FOR.  An index holds rows by the values of its keys.  Values are in
  this order: nothing, then numbers by size, then texts character by character, then
  bytes.  An integer and a double are compared exactly, so they are in one place when
  they are equal.
-/
import PlainSearch.Datum.Basic

set_option autoImplicit false

namespace PlainSearch.Database

/-- The first of two lists comes before the second, item by item, or it ends before it differs. -/
def isBeforeBy {α : Type} (place : α → Nat) : List α → List α → Bool
  | _, [] => false
  | [], _ :: _ => true
  | a :: as, b :: bs =>
    place a < place b || (place a = place b && isBeforeBy place as bs)

/-- The kind of a value, by its place in the order. -/
def kindPlace : Datum → Nat
  | .null => 0
  | .text _ => 2
  | .bytes _ => 3
  | _ => 1

/-- A number: which infinity it is, below or above, or the whole number and the divisor that it is
made of. -/
def ratioOf : Datum → Int × Int × Nat
  | .int n => (0, n, 1)
  | .real (.infinite negative) => (if negative then -1 else 1, 0, 1)
  | .real (.finite negative e f) =>
    let (num, den) := Double.ratio e f
    (0, if negative then -(num : Int) else num, den)
  | _ => (0, 0, 1)

/-- The first of two numbers is smaller. -/
def isSmaller (v w : Datum) : Bool :=
  let (side, num, den) := ratioOf v
  let (side', num', den') := ratioOf w
  side < side' || (side = side' && num * den' < num' * den)

/-- The first of two values comes before the second. -/
def isBefore (v w : Datum) : Bool :=
  match v, w with
  | .text s, .text t => isBeforeBy Char.toNat s t
  | .bytes s, .bytes t => isBeforeBy UInt8.toNat s t
  | v, w =>
    kindPlace v < kindPlace w || (kindPlace v = 1 && kindPlace w = 1 && isSmaller v w)

/-- The first of two rows of keys comes before the second. -/
def keysBefore : List Datum → List Datum → Bool
  | v :: vs, w :: ws => isBefore v w || (!isBefore w v && keysBefore vs ws)
  | _, _ => false

/-- The places of rows in the order of their keys; rows with equal keys stay in their order. -/
def orderOf (keys : List (List Datum)) : List Nat :=
  (keys.zipIdx.mergeSort fun a b => !keysBefore b.1 a.1).map (·.2)

end PlainSearch.Database
