/-
  Proofs/Number/Double.lean --- what a ratio and a decimal number are rounded to.

  WHAT THIS FILE IS FOR.  Rounding works on natural numbers: numerators, denominators,
  powers of two and of ten.  What it does is a matter of the rational number alone
  that these stand for:

      nearest negative num den      depends on  num / den              (`nearest_congr`);
      ofDecimal negative d e        depends on  d * 10 ^ e             (`ofDecimal_congr`).

  And a double is what its own magnitude is rounded to, by whatever numerator and
  denominator or by whatever digits that magnitude is given (`nearest_of_eq_magnitude`,
  `ofDecimal_of_eq_magnitude`).

  The scale on which a ratio is rounded comes from its logarithm to the base two, which
  `floorLog2` finds from the lengths of numerator and denominator (`floorLog2_eq_log`).
-/
import Mathlib.Data.Int.Log
import Mathlib.Data.Rat.Floor
import Mathlib.Tactic.FieldSimp
import Mathlib.Tactic.GCongr
import Mathlib.Tactic.NormNum
import Mathlib.Tactic.Positivity
import Mathlib.Tactic.Ring
import PlainSearch.Number.Double

set_option autoImplicit false

namespace PlainSearch.Double

/-- A power is a quotient of two powers with natural numbers for exponents. -/
theorem zpow_eq_div (b : ℚ) (hb : b ≠ 0) (k : ℤ) :
    b ^ k = b ^ k.toNat / b ^ (-k).toNat := by
  conv_lhs => rw [← k.toNat_sub_toNat_neg]
  rw [zpow_sub₀ hb, zpow_natCast, zpow_natCast]

/-! ## Rounding to a whole number -/

section

variable {num den num' den' : Nat}

theorem roundHalfEven_mul {c : Nat} (hc : 0 < c) :
    roundHalfEven (num * c) (den * c) = roundHalfEven num den := by
  have hquotient : num * c / (den * c) = num / den := Nat.mul_div_mul_right num den hc
  have hremainder : num * c % (den * c) = num % den * c := Nat.mul_mod_mul_right c num den
  have htwice : 2 * (num % den * c) = 2 * (num % den) * c := (Nat.mul_assoc 2 _ c).symm
  simp only [roundHalfEven, hquotient, hremainder, htwice, Nat.mul_lt_mul_right hc]

theorem roundHalfEven_congr (hden : 0 < den) (hden' : 0 < den') (h : num * den' = num' * den) :
    roundHalfEven num den = roundHalfEven num' den' := by
  rw [← roundHalfEven_mul hden', h, Nat.mul_comm den den', roundHalfEven_mul hden]

/-- A whole number is rounded to itself. -/
theorem roundHalfEven_of_eq_mul {m : Nat} (hden : 0 < den) (h : num = m * den) :
    roundHalfEven num den = m := by
  have hquotient : num / den = m := by rw [h, Nat.mul_div_cancel m hden]
  have hremainder : num % den = 0 := by rw [h, Nat.mul_mod_left]
  simp only [roundHalfEven, hquotient, hremainder, Nat.mul_zero, if_pos hden]

/-! ## The logarithm of a ratio -/

theorem log_eq_of_bounds {b : Nat} (hb : 1 < b) {r : ℚ} {k : ℤ} (hlower : (b : ℚ) ^ k ≤ r)
    (hupper : r < (b : ℚ) ^ (k + 1)) : Int.log b r = k := by
  have hpos : 0 < r := lt_of_lt_of_le (zpow_pos (by exact_mod_cast Nat.zero_lt_of_lt hb) k) hlower
  have hle := (Int.zpow_le_iff_le_log hb hpos).1 hlower
  have hlt := (Int.lt_zpow_iff_log_lt hb hpos).1 hupper
  omega

theorem zpow_two_le_ratio_iff (hden : 0 < den) (k : ℤ) :
    (2 : ℚ) ^ k ≤ (num : ℚ) / den ↔ den * Nat.pow 2 k.toNat ≤ num * Nat.pow 2 (-k).toNat := by
  have hden' : (0 : ℚ) < den := by exact_mod_cast hden
  have htwo : (0 : ℚ) < 2 ^ (-k).toNat := by positivity
  rw [zpow_eq_div 2 (by norm_num), div_le_div_iff₀ htwo hden', mul_comm]
  exact_mod_cast Iff.rfl

/-- A ratio is between two powers of two that the lengths of its parts tell. -/
theorem ratio_bounds (hnum : 0 < num) (hden : 0 < den) :
    (2 : ℚ) ^ ((num.log2 : ℤ) - den.log2 - 1) ≤ (num : ℚ) / den ∧
      (num : ℚ) / den < (2 : ℚ) ^ ((num.log2 : ℤ) - den.log2 + 1) := by
  have hden' : (0 : ℚ) < den := by exact_mod_cast hden
  have hnumLower : (2 : ℚ) ^ num.log2 ≤ num := by
    exact_mod_cast Nat.log2_self_le (Nat.ne_of_gt hnum)
  have hnumUpper : (num : ℚ) < 2 ^ (num.log2 + 1) := by exact_mod_cast Nat.lt_log2_self
  have hdenLower : (2 : ℚ) ^ den.log2 ≤ den := by
    exact_mod_cast Nat.log2_self_le (Nat.ne_of_gt hden)
  have hdenUpper : (den : ℚ) < 2 ^ (den.log2 + 1) := by exact_mod_cast Nat.lt_log2_self
  have hlow : (2 : ℚ) ^ ((num.log2 : ℤ) - den.log2 - 1) = 2 ^ num.log2 / 2 ^ (den.log2 + 1) := by
    rw [← zpow_natCast, ← zpow_natCast, ← zpow_sub₀ (by norm_num)]
    congr 1
    push_cast
    ring
  have hhigh : (2 : ℚ) ^ ((num.log2 : ℤ) - den.log2 + 1) = 2 ^ (num.log2 + 1) / 2 ^ den.log2 := by
    rw [← zpow_natCast, ← zpow_natCast, ← zpow_sub₀ (by norm_num)]
    congr 1
    push_cast
    ring
  constructor
  · rw [hlow]
    gcongr
  · rw [hhigh]
    gcongr

/-- The exponent that is found from the lengths of numerator and denominator is the logarithm. -/
theorem floorLog2_eq_log (hnum : 0 < num) (hden : 0 < den) :
    floorLog2 num den = Int.log 2 ((num : ℚ) / den) := by
  obtain ⟨hlower, hupper⟩ := ratio_bounds hnum hden
  symm
  unfold floorLog2
  dsimp only
  split
  · next h =>
    apply log_eq_of_bounds (by decide)
    · exact_mod_cast (zpow_two_le_ratio_iff hden _).2 h
    · exact_mod_cast hupper
  · next h =>
    apply log_eq_of_bounds (by decide)
    · exact_mod_cast hlower
    · rw [← zpow_two_le_ratio_iff hden, not_le] at h
      rw [sub_add_cancel]
      exact_mod_cast h

/-! ## Rounding a ratio -/

/-- What a ratio is rounded to depends on the rational number alone. -/
theorem nearest_congr (hden : 0 < den) (hden' : 0 < den') (h : num * den' = num' * den)
    (negative : Bool) : nearest negative num den = nearest negative num' den' := by
  by_cases hnum : num = 0
  · have hnum' : num' = 0 := by
      rw [hnum, Nat.zero_mul] at h
      exact (Nat.mul_eq_zero.1 h.symm).resolve_right (Nat.ne_of_gt hden)
    rw [nearest, nearest, if_pos hnum, if_pos hnum']
  · have hnum' : num' ≠ 0 := by
      rintro rfl
      rw [Nat.zero_mul] at h
      exact hnum ((Nat.mul_eq_zero.1 h).resolve_right (Nat.ne_of_gt hden'))
    have hratio : (num : ℚ) / den = (num' : ℚ) / den' := by
      rw [div_eq_div_iff (by exact_mod_cast Nat.ne_of_gt hden)
        (by exact_mod_cast Nat.ne_of_gt hden')]
      exact_mod_cast h
    have hlog : floorLog2 num den = floorLog2 num' den' := by
      rw [floorLog2_eq_log (Nat.pos_of_ne_zero hnum) hden, hratio,
        floorLog2_eq_log (Nat.pos_of_ne_zero hnum') hden']
    simp only [nearest, hnum, hnum', if_false, hlog]
    congr 1
    generalize max (floorLog2 num' den') (-1022) - 52 = q
    apply roundHalfEven_congr
    · exact Nat.mul_pos hden (Nat.pow_pos (by decide))
    · exact Nat.mul_pos hden' (Nat.pow_pos (by decide))
    · calc num * Nat.pow 2 (-q).toNat * (den' * Nat.pow 2 q.toNat)
          = num * den' * (Nat.pow 2 (-q).toNat * Nat.pow 2 q.toNat) := by ring
        _ = num' * Nat.pow 2 (-q).toNat * (den * Nat.pow 2 q.toNat) := by rw [h]; ring

end

/-! ## Doubles and their magnitudes -/

/-- The magnitude of a finite double. -/
def magnitude (exponent : Fin 2047) (fraction : Fin fractionCount) : ℚ :=
  mantissa exponent fraction * 2 ^ scale exponent

variable {e : Fin 2047} {f : Fin fractionCount}

theorem mantissa_lt (e : Fin 2047) (f : Fin fractionCount) : mantissa e f < 2 * fractionCount := by
  have hf := f.isLt
  unfold mantissa
  split <;> omega

theorem mantissa_lt_fractionCount_iff : mantissa e f < fractionCount ↔ e.val = 0 := by
  have hf := f.isLt
  unfold mantissa
  split <;> omega

theorem magnitude_pos_iff : 0 < magnitude e f ↔ 0 < mantissa e f := by
  have hpower : (0 : ℚ) < 2 ^ scale e := zpow_pos (by norm_num) _
  rw [magnitude, mul_pos_iff_of_pos_right hpower]
  exact Nat.cast_pos

theorem magnitude_eq_zero_iff : magnitude e f = 0 ↔ mantissa e f = 0 := by
  have hpower : (2 : ℚ) ^ scale e ≠ 0 := zpow_ne_zero _ (by norm_num)
  rw [magnitude, mul_eq_zero, or_iff_left hpower, Nat.cast_eq_zero]

theorem eq_zero_of_mantissa_eq_zero (h : mantissa e f = 0) (negative : Bool) :
    .finite negative e f = zero negative := by
  have he : e.val = 0 := mantissa_lt_fractionCount_iff.1 (by rw [h]; decide)
  have hf : f.val = 0 := by
    unfold mantissa at h
    rwa [if_pos he] at h
  rw [zero]
  congr 1
  · exact Fin.ext he
  · exact Fin.ext hf

/-- The ratio of a double is its magnitude. -/
theorem ratio_spec (e : Fin 2047) (f : Fin fractionCount) :
    0 < (ratio e f).2 ∧ ((ratio e f).1 : ℚ) / (ratio e f).2 = magnitude e f := by
  unfold ratio magnitude
  dsimp only
  split
  · next k hk =>
    refine ⟨Nat.one_pos, ?_⟩
    rw [hk, Int.ofNat_eq_natCast, zpow_natCast, Nat.cast_one, div_one]
    exact_mod_cast rfl
  · next k hk =>
    refine ⟨Nat.pow_pos (by decide), ?_⟩
    rw [hk, zpow_negSucc, ← div_eq_mul_inv]
    exact_mod_cast rfl

/-- The scale on which the magnitude of a double is rounded is its own. -/
theorem scale_of_log (hpos : 0 < mantissa e f) :
    max (Int.log 2 (magnitude e f)) (-1022) - 52 = scale e := by
  have hscale : scale e = (max e.val 1 : Nat) - 1075 := rfl
  have hpower : (0 : ℚ) < 2 ^ scale e := zpow_pos (by norm_num) _
  have hmagnitude : 0 < magnitude e f := magnitude_pos_iff.2 hpos
  have hcount : (fractionCount : ℚ) = 2 ^ (52 : ℤ) := by norm_num
  by_cases he : e.val = 0
  · -- a subnormal double: the logarithm is below the least scale
    have hlt : magnitude e f < 2 ^ (-1022 : ℤ) := by
      have hm : (mantissa e f : ℚ) < 2 ^ (52 : ℤ) := by
        rw [← hcount]
        exact_mod_cast mantissa_lt_fractionCount_iff.2 he
      have hs : scale e = -1074 := by rw [hscale, he]; norm_num
      calc magnitude e f < 2 ^ (52 : ℤ) * 2 ^ scale e := by unfold magnitude; gcongr
        _ = 2 ^ (-1022 : ℤ) := by rw [hs, ← zpow_add₀ (by norm_num)]; norm_num
    have hlog := (Int.lt_zpow_iff_log_lt (b := 2) (by decide) hmagnitude).1 (by exact_mod_cast hlt)
    omega
  · -- a normal one: the mantissa has fifty-three bits
    have hlower : (2 : ℚ) ^ (52 + scale e) ≤ magnitude e f := by
      rw [zpow_add₀ (by norm_num), ← hcount]
      unfold magnitude
      gcongr
      exact_mod_cast Nat.not_lt.1 fun h => he (mantissa_lt_fractionCount_iff.1 h)
    have hupper : magnitude e f < 2 ^ (52 + scale e + 1) := by
      have hm : (mantissa e f : ℚ) < 2 * 2 ^ (52 : ℤ) := by
        rw [← hcount]
        exact_mod_cast mantissa_lt e f
      calc magnitude e f < 2 * 2 ^ (52 : ℤ) * 2 ^ scale e := by unfold magnitude; gcongr
        _ = 2 ^ (52 + scale e + 1) := by
          rw [zpow_add₀ (by norm_num), zpow_add₀ (by norm_num)]
          ring
    have hlog := log_eq_of_bounds (b := 2) (by decide) (by exact_mod_cast hlower)
      (by exact_mod_cast hupper)
    rw [hlog]
    omega

/-- A mantissa and a scale make up the double that they are of. -/
theorem ofMantissa_mantissa (negative : Bool) (e : Fin 2047) (f : Fin fractionCount) :
    ofMantissa negative (mantissa e f) (scale e) = .finite negative e f := by
  have hf := f.isLt
  have hlt := mantissa_lt e f
  by_cases he : e.val = 0
  · have hm : mantissa e f = f.val := by unfold mantissa; rw [if_pos he]
    rw [ofMantissa, dif_pos (mantissa_lt_fractionCount_iff.2 he)]
    congr 1
    · exact Fin.ext he.symm
    · exact Fin.ext hm
  · have hm : mantissa e f = fractionCount + f.val := by unfold mantissa; rw [if_neg he]
    have hcarried : ¬ mantissa e f = 2 * fractionCount := Nat.ne_of_lt hlt
    have hbiased : (scale e + 1075).toNat + 0 = e.val := by unfold scale; omega
    have hfraction : fractionOf (mantissa e f - fractionCount) = f := by
      apply Fin.ext
      simp only [fractionOf, hm, Nat.add_sub_cancel_left]
      exact Nat.mod_eq_of_lt hf
    rw [ofMantissa, dif_neg fun h => he (mantissa_lt_fractionCount_iff.1 h)]
    simp only [hcarried, if_false, hbiased, hfraction, dif_pos e.isLt]

/-- A ratio that is the magnitude of a double is rounded to the double. -/
theorem nearest_of_eq_magnitude {num den : Nat} (hden : 0 < den)
    (h : (num : ℚ) / den = magnitude e f) (negative : Bool) :
    nearest negative num den = .finite negative e f := by
  obtain ⟨hratio, hvalue⟩ := ratio_spec e f
  have hsame : num * (ratio e f).2 = (ratio e f).1 * den := by
    rw [← hvalue, div_eq_div_iff (by exact_mod_cast Nat.ne_of_gt hden)
      (by exact_mod_cast Nat.ne_of_gt hratio)] at h
    exact_mod_cast h
  rw [nearest_congr hden hratio hsame]
  by_cases hm : mantissa e f = 0
  · have hzero : (ratio e f).1 = 0 := by
      rw [magnitude_eq_zero_iff.2 hm, div_eq_zero_iff] at hvalue
      exact_mod_cast hvalue.resolve_right (by exact_mod_cast Nat.ne_of_gt hratio)
    rw [nearest, if_pos hzero, eq_zero_of_mantissa_eq_zero hm]
  · have hpos : 0 < mantissa e f := Nat.pos_of_ne_zero hm
    have hmagnitude : 0 < magnitude e f := magnitude_pos_iff.2 hpos
    have hnum : 0 < (ratio e f).1 := by
      rw [← hvalue] at hmagnitude
      have hden' : (0 : ℚ) < (ratio e f).2 := by exact_mod_cast hratio
      exact_mod_cast (div_pos_iff_of_pos_right hden').1 hmagnitude
    have hround : roundHalfEven ((ratio e f).1 * Nat.pow 2 (-scale e).toNat)
        ((ratio e f).2 * Nat.pow 2 (scale e).toNat) = mantissa e f := by
      apply roundHalfEven_of_eq_mul (Nat.mul_pos hratio (Nat.pow_pos (by decide)))
      have hden' : ((ratio e f).2 : ℚ) ≠ 0 := by exact_mod_cast Nat.ne_of_gt hratio
      rw [magnitude, zpow_eq_div 2 (by norm_num)] at hvalue
      field_simp at hvalue
      have hcast : ((ratio e f).1 : ℚ) * 2 ^ (-scale e).toNat
          = mantissa e f * ((ratio e f).2 * 2 ^ (scale e).toNat) := by
        rw [hvalue]
        ring
      exact_mod_cast hcast
    rw [nearest, if_neg (Nat.ne_of_gt hnum), floorLog2_eq_log hnum hratio, hvalue,
      scale_of_log hpos]
    dsimp only
    rw [hround, ofMantissa_mantissa]

/-! ## Rounding a decimal number -/

theorem pow_le_of_lt_length {d k : Nat} (hd : 0 < d) (h : k < (Text.ofNat d).length) :
    10 ^ k ≤ d := by
  by_cases hk : k = 0
  · rw [hk]
    exact hd
  · have hlength := (Text.length_ofNat_le_iff (n := d) (Nat.pos_of_ne_zero hk)).not
    exact Nat.not_lt.1 (hlength.1 (Nat.not_le.2 h))

/-- How many digits a number has in front of its point is a matter of its value. -/
theorem length_add_eq_log {d : Nat} (hd : 0 < d) (g : ℤ) :
    ((Text.ofNat d).length : ℤ) + g = Int.log 10 ((d : ℚ) * 10 ^ g) + 1 := by
  have hlength : 0 < (Text.ofNat d).length := List.length_pos_iff.2 (Text.ofNat_ne_nil d)
  have hlower : (10 : ℚ) ^ (((Text.ofNat d).length : ℤ) - 1) ≤ d := by
    have hle := pow_le_of_lt_length hd (Nat.sub_one_lt_of_lt hlength)
    have hexponent : ((Text.ofNat d).length : ℤ) - 1 = ((Text.ofNat d).length - 1 : Nat) := by
      omega
    rw [hexponent, zpow_natCast]
    exact_mod_cast hle
  have hupper : (d : ℚ) < 10 ^ ((Text.ofNat d).length : ℤ) := by
    rw [zpow_natCast]
    exact_mod_cast (Text.length_ofNat_le_iff hlength).1 (Nat.le_refl _)
  have hten : (0 : ℚ) < 10 ^ g := zpow_pos (by norm_num) g
  have hlog : Int.log 10 ((d : ℚ) * 10 ^ g) = (Text.ofNat d).length - 1 + g := by
    apply log_eq_of_bounds (by decide)
    · rw [Nat.cast_ofNat, zpow_add₀ (by norm_num)]
      gcongr
    · have hexponent : ((Text.ofNat d).length : ℤ) - 1 + g + 1 = (Text.ofNat d).length + g := by
        ring
      rw [hexponent, Nat.cast_ofNat, zpow_add₀ (by norm_num)]
      gcongr
  rw [hlog]
  ring

/-- A decimal number as a ratio. -/
theorem decimal_ratio (d : Nat) (g : ℤ) :
    ((d * Nat.pow 10 g.toNat : Nat) : ℚ) / (Nat.pow 10 (-g).toNat : Nat) = (d : ℚ) * 10 ^ g := by
  rw [zpow_eq_div 10 (by norm_num) g, ← mul_div_assoc]
  exact_mod_cast rfl

/-- What a decimal number is rounded to depends on its value alone. -/
theorem ofDecimal_congr {d d' : Nat} {g g' : ℤ} (h : (d : ℚ) * 10 ^ g = d' * 10 ^ g')
    (negative : Bool) : ofDecimal negative d g = ofDecimal negative d' g' := by
  have hpower (k : ℤ) : (10 : ℚ) ^ k ≠ 0 := zpow_ne_zero k (by norm_num)
  have hzero : d = 0 ↔ d' = 0 := by
    have hcast : (d : ℚ) * 10 ^ g = 0 ↔ (d' : ℚ) * 10 ^ g' = 0 := by rw [h]
    simpa only [mul_eq_zero, hpower, or_false, Nat.cast_eq_zero] using hcast
  by_cases hd : d = 0
  · rw [ofDecimal, ofDecimal, if_pos (.inl hd), if_pos (.inl (hzero.1 hd))]
  · have hd' : d' ≠ 0 := fun h0 => hd (hzero.2 h0)
    have hsize : ((Text.ofNat d).length : ℤ) + g = (Text.ofNat d').length + g' := by
      rw [length_add_eq_log (Nat.pos_of_ne_zero hd), length_add_eq_log (Nat.pos_of_ne_zero hd'), h]
    have hden (k : ℤ) : 0 < Nat.pow 10 k.toNat := Nat.pow_pos (by decide)
    have hnearest : nearest negative (d * Nat.pow 10 g.toNat) (Nat.pow 10 (-g).toNat)
        = nearest negative (d' * Nat.pow 10 g'.toNat) (Nat.pow 10 (-g').toNat) := by
      apply nearest_congr (hden _) (hden _)
      rw [← decimal_ratio d, ← decimal_ratio d', div_eq_div_iff
        (by exact_mod_cast Nat.ne_of_gt (hden _)) (by exact_mod_cast Nat.ne_of_gt (hden _))] at h
      exact_mod_cast h
    simp only [ofDecimal, hd, hd', hsize, hnearest]

theorem ten_zpow_le_two_zpow : (10 : ℚ) ^ (-324 : ℤ) ≤ 2 ^ (-1074 : ℤ) := by
  have hle : (2 : Nat) ^ 1074 ≤ 10 ^ 324 := by decide +kernel
  rw [zpow_neg, zpow_neg]
  apply inv_anti₀ (zpow_pos (by norm_num) _)
  exact_mod_cast hle

theorem two_zpow_le_ten_zpow : (2 : ℚ) ^ (1024 : ℤ) ≤ 10 ^ (309 : ℤ) := by
  have hle : (2 : Nat) ^ 1024 ≤ 10 ^ 309 := by decide +kernel
  exact_mod_cast hle

theorem magnitude_bounds (hpos : 0 < mantissa e f) :
    (10 : ℚ) ^ (-324 : ℤ) ≤ magnitude e f ∧ magnitude e f < (10 : ℚ) ^ (309 : ℤ) := by
  have he := e.isLt
  have hscale : scale e = (max e.val 1 : Nat) - 1075 := rfl
  have hpower : (0 : ℚ) < 2 ^ scale e := zpow_pos (by norm_num) _
  constructor
  · have hone : (1 : ℚ) ≤ mantissa e f := by exact_mod_cast hpos
    calc (10 : ℚ) ^ (-324 : ℤ) ≤ 2 ^ (-1074 : ℤ) := ten_zpow_le_two_zpow
      _ ≤ 2 ^ scale e := zpow_le_zpow_right₀ (by norm_num) (by omega)
      _ ≤ mantissa e f * 2 ^ scale e := le_mul_of_one_le_left hpower.le hone
  · have hlt : (mantissa e f : ℚ) < 2 ^ (53 : ℤ) := by
      have hcount : ((2 * fractionCount : Nat) : ℚ) = 2 ^ (53 : ℤ) := by norm_num
      rw [← hcount]
      exact_mod_cast mantissa_lt e f
    calc (mantissa e f : ℚ) * 2 ^ scale e < 2 ^ (53 : ℤ) * 2 ^ scale e := by gcongr
      _ = 2 ^ (53 + scale e) := (zpow_add₀ (by norm_num) _ _).symm
      _ ≤ 2 ^ (1024 : ℤ) := zpow_le_zpow_right₀ (by norm_num) (by omega)
      _ ≤ (10 : ℚ) ^ (309 : ℤ) := two_zpow_le_ten_zpow

/-- A decimal number that is the magnitude of a double is rounded to the double. -/
theorem ofDecimal_of_eq_magnitude {d : Nat} {g : ℤ} (h : (d : ℚ) * 10 ^ g = magnitude e f)
    (negative : Bool) : ofDecimal negative d g = .finite negative e f := by
  by_cases hm : mantissa e f = 0
  · have hd : d = 0 := by
      have hpower : (10 : ℚ) ^ g ≠ 0 := zpow_ne_zero g (by norm_num)
      rw [magnitude_eq_zero_iff.2 hm, mul_eq_zero, or_iff_left hpower] at h
      exact_mod_cast h
    rw [ofDecimal, if_pos (.inl hd), eq_zero_of_mantissa_eq_zero hm]
  · obtain ⟨hlower, hupper⟩ := magnitude_bounds (Nat.pos_of_ne_zero hm)
    have hmagnitude : 0 < magnitude e f := magnitude_pos_iff.2 (Nat.pos_of_ne_zero hm)
    have hd : d ≠ 0 := by
      rintro rfl
      rw [Nat.cast_zero, zero_mul] at h
      exact absurd h.symm (ne_of_gt hmagnitude)
    have hsize := length_add_eq_log (Nat.pos_of_ne_zero hd) g
    have hlow : -324 ≤ Int.log 10 ((d : ℚ) * 10 ^ g) := by
      rw [h]
      exact (Int.zpow_le_iff_le_log (b := 10) (by decide) hmagnitude).1 (by exact_mod_cast hlower)
    have hhigh : Int.log 10 ((d : ℚ) * 10 ^ g) < 309 := by
      rw [h]
      exact (Int.lt_zpow_iff_log_lt (b := 10) (by decide) hmagnitude).1 (by exact_mod_cast hupper)
    have hsmall : ¬ (d = 0 ∨ ((Text.ofNat d).length : ℤ) + g < -330) := by omega
    have hlarge : ¬ 310 < ((Text.ofNat d).length : ℤ) + g := by omega
    rw [ofDecimal, if_neg hsmall, if_neg hlarge]
    have hden : 0 < Nat.pow 10 (-g).toNat := Nat.pow_pos (by decide)
    exact nearest_of_eq_magnitude hden ((decimal_ratio d g).trans h) negative

end PlainSearch.Double
