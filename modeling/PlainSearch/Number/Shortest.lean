/-
  Number/Shortest.lean --- the shortest decimal that reads back as a double.

  WHAT THIS FILE IS FOR.  A double is written with as few digits as identify it.
  For one digit, two digits, ... up to seventeen the two neighbours of its
  magnitude on that decimal grid are tried: the first grid with a neighbour that
  rounds to the double wins, and of two such neighbours the nearer (the even one
  if both are equally near).  The exact decimal expansion of the double, which
  every double has, stands behind the search, so that the answer reads back
  whatever the search does.
-/
import PlainSearch.Number.Double

set_option autoImplicit false

namespace PlainSearch

/-- The decimal number `digits * 10 ^ exponent`. -/
structure Decimal where
  /-- the digits, as one whole number -/
  digits : Nat
  exponent : Int
  deriving DecidableEq, Repr

namespace Decimal

/-- Removes up to `fuel` zeros at the end of the digits. -/
def dropZeros : Nat → Decimal → Decimal
  | 0, d => d
  | fuel + 1, d =>
    if d.digits % 10 = 0 ∧ d.digits ≠ 0 then dropZeros fuel ⟨d.digits / 10, d.exponent + 1⟩ else d

end Decimal

namespace Double

/-- The greatest exponent `p` with `10 ^ p ≤ num / den`, for positive `num` and `den`. -/
def floorLog10 (num den : Nat) : Int :=
  if den ≤ num then (Text.ofNat (num / den)).length - 1
  else -((Text.ofNat ((den - 1) / num)).length : Int)

/-- The neighbour of the double `x`, of magnitude `num / den`, that identifies it on the grid of
the multiples of `10 ^ g`, if there is one. -/
def onGrid? (x : Double) (negative : Bool) (num den : Nat) (g : Int) : Option Decimal :=
  let num := num * Nat.pow 10 (-g).toNat
  let den := den * Nat.pow 10 g.toNat
  let below := num / den
  let twice := 2 * (num % den)
  let nearer := if twice < den ∨ (twice = den ∧ below % 2 = 0) then below else below + 1
  let further := if nearer = below then below + 1 else below
  let identifies (c : Nat) : Bool := ofDecimal negative c g = x
  if identifies nearer then some ⟨nearer, g⟩
  else if identifies further then some ⟨further, g⟩
  else none

/-- The exact decimal expansion of the magnitude of a finite double. -/
def expansion (exponent : Fin 2047) (fraction : Fin fractionCount) : Decimal :=
  match scale exponent with
  | .ofNat k => ⟨mantissa exponent fraction * Nat.pow 2 k, 0⟩
  | .negSucc k => ⟨mantissa exponent fraction * Nat.pow 5 (k + 1), -((k : Int) + 1)⟩

/-- The shortest decimal that reads back as a finite double, without its sign. -/
def shortest (negative : Bool) (exponent : Fin 2047) (fraction : Fin fractionCount) : Decimal :=
  let (num, den) := ratio exponent fraction
  if num = 0 then ⟨0, 0⟩
  else
    let p := floorLog10 num den
    let x : Double := .finite negative exponent fraction
    match (List.range 17).findSome? fun (n : Nat) => onGrid? x negative num den (p - (n : Int)) with
    | some d => d.dropZeros 17
    | none => expansion exponent fraction

end Double
end PlainSearch
