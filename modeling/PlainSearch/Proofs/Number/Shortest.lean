/-
  Proofs/Number/Shortest.lean --- the shortest decimal of a double is rounded to the double.

  WHAT THIS FILE IS FOR.  The shortest decimal is looked for on coarser and finer grids,
  and every candidate is tried before it is taken (`onGrid?`).  So what is found on a grid
  is rounded to the double, whatever the search does; and so is the exact expansion, which
  stands behind the search, because its value is the magnitude of the double
  (`value_expansion`).  Zeros at the end of the digits may go, as they leave the value as
  it is (`value_dropZeros`).  Together (`ofDecimal_shortest`):

      ofDecimal negative d.digits d.exponent  =  the double,  for its shortest decimal d.
-/
import Mathlib.Tactic.Linarith
import PlainSearch.Number.Shortest
import PlainSearch.Proofs.Number.Double

set_option autoImplicit false

namespace PlainSearch

namespace Decimal

/-- The number that a decimal is. -/
def value (d : Decimal) : ℚ := d.digits * 10 ^ d.exponent

/-- Zeros at the end of the digits have no part in the value. -/
theorem value_dropZeros (fuel : Nat) (d : Decimal) : (d.dropZeros fuel).value = d.value := by
  induction fuel generalizing d with
  | zero => rfl
  | succ fuel ih =>
    rw [dropZeros]
    split
    · next h =>
      rw [ih]
      have hdigits : (d.digits : ℚ) = (d.digits / 10 : Nat) * 10 := by
        exact_mod_cast (Nat.div_mul_cancel (Nat.dvd_of_mod_eq_zero h.1)).symm
      rw [value, value, hdigits, zpow_add₀ (by norm_num), zpow_one]
      ring
    · rfl

end Decimal

namespace Double

variable {e : Fin 2047} {f : Fin fractionCount}

/-- What identifies a double on a grid is rounded to it. -/
theorem ofDecimal_of_onGrid? {x : Double} {negative : Bool} {num den : Nat} {g : ℤ} {d : Decimal}
    (h : onGrid? x negative num den g = some d) : ofDecimal negative d.digits d.exponent = x := by
  unfold onGrid? at h
  extract_lets num' den' below twice nearer further identifies at h
  split at h
  · next hnear =>
    rw [← Option.some.inj h]
    exact of_decide_eq_true hnear
  · split at h
    · next hfar =>
      rw [← Option.some.inj h]
      exact of_decide_eq_true hfar
    · exact absurd h (Option.some_ne_none d).symm

/-- The exact expansion of a double has its magnitude for value. -/
theorem value_expansion (e : Fin 2047) (f : Fin fractionCount) :
    (expansion e f).value = magnitude e f := by
  unfold expansion Decimal.value magnitude
  split
  · next k hk =>
    rw [hk, Int.ofNat_eq_natCast, zpow_natCast, zpow_zero, mul_one]
    exact_mod_cast rfl
  · next k hk =>
    -- ten to the power is five to the power times two to the power
    have hten : (10 : ℚ) ^ (-((k : ℤ) + 1)) = (5 ^ (k + 1))⁻¹ * (2 ^ (k + 1))⁻¹ := by
      have hexponent : -((k : ℤ) + 1) = -((k + 1 : Nat) : ℤ) := by push_cast; ring
      rw [hexponent, zpow_neg, zpow_natCast, ← mul_inv, ← mul_pow]
      norm_num
    have hfive : (5 : ℚ) ^ (k + 1) ≠ 0 := pow_ne_zero _ (by norm_num)
    have hcast : ((mantissa e f * Nat.pow 5 (k + 1) : Nat) : ℚ) = mantissa e f * 5 ^ (k + 1) := by
      exact_mod_cast rfl
    rw [hk, zpow_negSucc, hten, hcast, mul_assoc, mul_inv_cancel_left₀ hfive]

/-- The shortest decimal of a double is rounded to the double. -/
theorem ofDecimal_shortest (negative : Bool) (e : Fin 2047) (f : Fin fractionCount) :
    ofDecimal negative (shortest negative e f).digits (shortest negative e f).exponent
      = .finite negative e f := by
  obtain ⟨hden, hvalue⟩ := ratio_spec e f
  unfold shortest
  dsimp only
  split
  · next hnum =>
    -- a zero
    have hmagnitude : magnitude e f = 0 := by rw [← hvalue, hnum, Nat.cast_zero, zero_div]
    rw [eq_zero_of_mantissa_eq_zero (magnitude_eq_zero_iff.1 hmagnitude)]
    rfl
  · split
    · next d hfound =>
      obtain ⟨n, -, hgrid⟩ := List.exists_of_findSome?_eq_some hfound
      rw [ofDecimal_congr (d.value_dropZeros 17)]
      exact ofDecimal_of_onGrid? hgrid
    · exact ofDecimal_of_eq_magnitude (value_expansion e f) negative

end Double
end PlainSearch
