/-
  Number/Double.lean --- double-precision numbers, and rounding to them.

  WHAT THIS FILE IS FOR.  Databases hold binary64 numbers.  A `Double` is one of
  them field by field: the sign, the biased exponent and the fraction of a finite
  number, an infinity, or the single "not a number".  Distinct values are distinct
  numbers, except that both zeros are kept.

  ROUNDING.  `nearest` takes a ratio of natural numbers to the nearest double, a
  ratio half-way between two of them to the one whose last bit is zero, and what
  is too large to an infinity.  It works in whole numbers throughout:

      value of a finite double  =  mantissa * 2 ^ scale
      nearest num den           =  the double whose mantissa is num / (den * 2 ^ scale),
                                   rounded half to even

  where the scale is the one that makes the mantissa fifty-three bits long, and
  never below that of the subnormal numbers.
-/
import PlainSearch.Text.Digit

set_option autoImplicit false

namespace PlainSearch

/-- How many fractions there are: two to the power of fifty-two. -/
abbrev Double.fractionCount : Nat := 4503599627370496

/-- A double-precision number. -/
inductive Double where
  | nan
  | infinite (negative : Bool)
  /-- a finite number by its sign, biased exponent and fraction -/
  | finite (negative : Bool) (exponent : Fin 2047) (fraction : Fin Double.fractionCount)
  deriving DecidableEq, Repr

namespace Double

/-- The fraction of a number, without what it has beyond all fractions. -/
def fractionOf (n : Nat) : Fin fractionCount := ⟨n % fractionCount, Nat.mod_lt n (by decide)⟩

/-- The zero of a sign. -/
def zero (negative : Bool) : Double := .finite negative ⟨0, by decide⟩ ⟨0, by decide⟩

/-- The whole number that a power of two scales to the magnitude of a finite double. -/
def mantissa (exponent : Fin 2047) (fraction : Fin fractionCount) : Nat :=
  if exponent.val = 0 then fraction.val else fractionCount + fraction.val

/-- The power of two that the mantissa of a finite double is scaled by. -/
def scale (exponent : Fin 2047) : Int := (max exponent.val 1 : Nat) - 1075

/-- The magnitude of a finite double as a ratio of natural numbers. -/
def ratio (exponent : Fin 2047) (fraction : Fin fractionCount) : Nat × Nat :=
  let m := mantissa exponent fraction
  match scale exponent with
  | .ofNat k => (m * Nat.pow 2 k, 1)
  | .negSucc k => (m, Nat.pow 2 (k + 1))

/-! ## Rounding -/

/-- The whole number nearest to `num / den`, and the even one of two that are equally near. -/
def roundHalfEven (num den : Nat) : Nat :=
  let q := num / den
  let twice := 2 * (num % den)
  if twice < den then q
  else if den < twice then q + 1
  else if q % 2 = 0 then q else q + 1

/-- The greatest exponent `k` with `2 ^ k ≤ num / den`, for positive `num` and `den`. -/
def floorLog2 (num den : Nat) : Int :=
  let k : Int := (num.log2 : Int) - den.log2
  if den * Nat.pow 2 k.toNat ≤ num * Nat.pow 2 (-k).toNat then k else k - 1

/-- The double `m * 2 ^ q`, for a mantissa of at most fifty-three bits (or the next power of two)
that is scaled as `nearest` scales it. -/
def ofMantissa (negative : Bool) (m : Nat) (q : Int) : Double :=
  if h : m < fractionCount then .finite negative ⟨0, by decide⟩ ⟨m, h⟩
  else
    let carried := m = 2 * fractionCount
    let biased := (q + 1075).toNat + (if carried then 1 else 0)
    let fraction := if carried then 0 else m - fractionCount
    if h : biased < 2047 then .finite negative ⟨biased, h⟩ (fractionOf fraction)
    else .infinite negative

/-- The double nearest to the ratio `num / den`, with the given sign. -/
def nearest (negative : Bool) (num den : Nat) : Double :=
  if num = 0 then zero negative
  else
    let q := max (floorLog2 num den) (-1022) - 52
    ofMantissa negative (roundHalfEven (num * Nat.pow 2 (-q).toNat) (den * Nat.pow 2 q.toNat)) q

/-- The double nearest to `digits * 10 ^ exponent`.  A number with more than three hundred and ten
digits before the point is beyond every double, and one with more than three hundred and thirty
zeros behind it is nearer to zero than to any other, so powers of ten stay within bounds. -/
def ofDecimal (negative : Bool) (digits : Nat) (exponent : Int) : Double :=
  let size : Int := (Text.ofNat digits).length + exponent
  if digits = 0 ∨ size < -330 then zero negative
  else if 310 < size then .infinite negative
  else nearest negative (digits * Nat.pow 10 exponent.toNat) (Nat.pow 10 (-exponent).toNat)

/-! ## The numbers that are whole -/

/-- The whole number that a finite double equals, if it equals one. -/
def toInt? : Double → Option Int
  | .finite negative e f =>
    let (num, den) := ratio e f
    if num % den = 0 then
      some (if negative then -((num / den : Nat) : Int) else ((num / den : Nat) : Int))
    else none
  | _ => none

end Double
end PlainSearch
