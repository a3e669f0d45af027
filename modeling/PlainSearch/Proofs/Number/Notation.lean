/-
  Proofs/Number/Notation.lean --- a double is read back from its notation.

  WHAT THIS FILE IS FOR.  Numbers are written positionally or with an exponent, with
  zeros filled in on either side of the point.  Whichever way it is, the text is made of
  three parts (`Spelled`):

      whole . part e power        digits, digits that may be missing with their point,
                                  and an exponent with a sign, that may be missing.

  The parts of a decimal have the value of the decimal (`decimalText_spec`), and what a
  reader makes of a text is the value of its parts, rounded (`readMagnitude?_text`).
  Since the shortest decimal of a double is rounded to the double, reading undoes writing
  (`readMagnitude?_decimalText`).
-/
import PlainSearch.Number.Notation
import PlainSearch.Proofs.Number.Shortest
import PlainSearch.Proofs.Text.Digit

set_option autoImplicit false

namespace PlainSearch.Double

open Text (isAsciiDigit numeralValue ofNat padLeft padRight)

/-- The parts of a number without a sign, as it is spelled. -/
structure Spelled where
  whole : Text
  /-- the digits behind the point; without any there is no point -/
  part : Text
  /-- the sign of the exponent (true for a minus) and its digits -/
  power : Option (Bool × Text)

namespace Spelled

/-- The point and the digits behind it. -/
def fraction (s : Spelled) : Text := if s.part = [] then [] else '.' :: s.part

/-- The exponent, with its letter and its sign. -/
def tail (s : Spelled) : Text :=
  match s.power with
  | none => []
  | some (negative, ds) => 'e' :: (if negative then '-' else '+') :: ds

/-- The spelling itself. -/
def text (s : Spelled) : Text := s.whole ++ (s.fraction ++ s.tail)

/-- The exponent as a number. -/
def exponent (s : Spelled) : ℤ :=
  match s.power with
  | none => 0
  | some (negative, ds) => if negative then -(numeralValue ds : ℤ) else numeralValue ds

/-- The number that is spelled. -/
def value (s : Spelled) : ℚ :=
  numeralValue (s.whole ++ s.part) * 10 ^ (s.exponent - s.part.length)

/-- A spelling that is the number of a document: digits where they belong, no zero in front of
another digit, and a point or an exponent. -/
structure IsProper (s : Spelled) : Prop where
  whole_ne_nil : s.whole ≠ []
  isAsciiDigit_of_mem_whole : ∀ c ∈ s.whole, isAsciiDigit c = true
  /-- a zero in front is alone -/
  whole_head : s.whole = ['0'] ∨ s.whole.head? ≠ some '0'
  isAsciiDigit_of_mem_part : ∀ c ∈ s.part, isAsciiDigit c = true
  /-- and only digits in the exponent, at least one -/
  power_digits : ∀ p ∈ s.power, p.2 ≠ [] ∧ ∀ c ∈ p.2, isAsciiDigit c = true
  isReal : s.part ≠ [] ∨ s.power ≠ none

variable {s : Spelled}

theorem isAsciiDigit_head?_tail : ∀ c ∈ s.tail.head?, isAsciiDigit c = false := by
  unfold tail
  split
  · simp
  · simp only [List.head?_cons, Option.mem_def, Option.some.injEq]
    rintro c rfl
    decide

theorem isAsciiDigit_head?_fraction_tail :
    ∀ c ∈ (s.fraction ++ s.tail).head?, isAsciiDigit c = false := by
  unfold fraction
  split
  · exact isAsciiDigit_head?_tail
  · simp only [List.cons_append, List.head?_cons, Option.mem_def, Option.some.injEq]
    rintro c rfl
    decide

theorem tail_ne_point (s : Spelled) (r : Text) : s.tail ≠ '.' :: r := by
  unfold tail
  split
  · exact (List.cons_ne_nil _ _).symm
  · exact fun h => absurd (List.cons.inj h).1 (by decide)

/-- A point stands in front of the digits behind it. -/
theorem eq_append_of_point {r : Text} (h : s.fraction ++ s.tail = '.' :: r) :
    r = s.part ++ s.tail ∧ s.part ≠ [] := by
  unfold fraction at h
  split at h
  · exact absurd h (s.tail_ne_point r)
  · next hpart => exact ⟨(List.cons.inj h).2.symm, hpart⟩

theorem part_eq_nil_of_no_point (h : ∀ r, s.fraction ++ s.tail ≠ '.' :: r) :
    s.part = [] ∧ s.fraction ++ s.tail = s.tail := by
  unfold fraction at h ⊢
  split
  · next hpart => exact ⟨hpart, List.nil_append _⟩
  · next hpart => exact absurd (by rw [if_neg hpart]; rfl) (h (s.part ++ s.tail))

/-! ## Reading the parts -/

theorem readExponent?_tail (hs : s.IsProper) : readExponent? s.tail = some s.exponent := by
  unfold tail exponent
  cases hpower : s.power with
  | none => rfl
  | some p =>
    obtain ⟨negative, ds⟩ := p
    obtain ⟨hne, hdigits⟩ := hs.power_digits _ hpower
    have hall : ds.all isAsciiDigit = true := List.all_eq_true.2 hdigits
    cases negative <;> simp [readExponent?, readSign, hne, hall]

/-- What is read of a number is the value of its parts, rounded. -/
theorem readMagnitude?_text (hs : s.IsProper) (negative : Bool) :
    readMagnitude? negative s.text
      = some (ofDecimal negative (numeralValue (s.whole ++ s.part))
          (s.exponent - s.part.length)) := by
  have hwhole : s.text.takeWhile isAsciiDigit = s.whole :=
    Text.takeWhile_run hs.isAsciiDigit_of_mem_whole isAsciiDigit_head?_fraction_tail
  have hrest : s.text.dropWhile isAsciiDigit = s.fraction ++ s.tail :=
    Text.dropWhile_run hs.isAsciiDigit_of_mem_whole isAsciiDigit_head?_fraction_tail
  have hne : ∀ part : Text, ¬ (s.whole = [] ∧ part = []) := fun _ h => hs.whole_ne_nil h.1
  unfold readMagnitude?
  rw [hwhole, hrest]
  dsimp only
  split
  · next r hpoint =>
    dsimp only
    rw [(eq_append_of_point hpoint).1,
      Text.takeWhile_run hs.isAsciiDigit_of_mem_part isAsciiDigit_head?_tail,
      Text.dropWhile_run hs.isAsciiDigit_of_mem_part isAsciiDigit_head?_tail, if_neg (hne _),
      readExponent?_tail hs]
    rfl
  · next hpoint =>
    obtain ⟨hpart, htail⟩ := part_eq_nil_of_no_point fun r h => hpoint r h
    dsimp only
    rw [htail, hpart, if_neg (hne _), readExponent?_tail hs]
    rfl

end Spelled

/-! ## The parts of a decimal -/

theorem Spelled.value_eq {s : Spelled} {d : Decimal}
    (hdigits : numeralValue (s.whole ++ s.part) = d.digits)
    (hexponent : s.exponent - s.part.length = d.exponent) : s.value = d.value := by
  rw [Spelled.value, hdigits, hexponent, Decimal.value]

/-- A text has the parts of a number, with the value of a decimal. -/
def IsSpelling (t : Text) (d : Decimal) : Prop :=
  ∃ s : Spelled, s.IsProper ∧ s.text = t ∧ s.value = d.value

variable {d : Decimal}

theorem isAsciiDigit_of_mem_zero : ∀ c ∈ ['0'], isAsciiDigit c = true :=
  List.forall_mem_singleton.2 (by decide)

theorem isSpelling_zero (h : d.digits = 0) : IsSpelling ['0', '.', '0'] d := by
  refine ⟨⟨['0'], ['0'], none⟩, ?_, rfl, ?_⟩
  · exact {
      whole_ne_nil := by simp
      isAsciiDigit_of_mem_whole := isAsciiDigit_of_mem_zero
      whole_head := .inl rfl
      isAsciiDigit_of_mem_part := isAsciiDigit_of_mem_zero
      power_digits := by simp
      isReal := .inl (by simp) }
  · have hzero : numeralValue (['0'] ++ ['0']) = 0 := by decide
    rw [Spelled.value, hzero, Decimal.value, h, Nat.cast_zero, zero_mul, zero_mul]

/-- A number below one: zeros between the point and the digits. -/
theorem isSpelling_below_one (h : (ofNat d.digits).length + d.exponent ≤ 0) :
    IsSpelling (['0', '.'] ++ List.replicate (-((ofNat d.digits).length + d.exponent)).toNat '0'
      ++ ofNat d.digits) d := by
  generalize hk : (-((ofNat d.digits).length + d.exponent)).toNat = k
  have hne : List.replicate k '0' ++ ofNat d.digits ≠ [] :=
    List.append_ne_nil_of_right_ne_nil _ (Text.ofNat_ne_nil _)
  refine ⟨⟨['0'], List.replicate k '0' ++ ofNat d.digits, none⟩, ?_, ?_, ?_⟩
  · exact {
      whole_ne_nil := by simp
      isAsciiDigit_of_mem_whole := isAsciiDigit_of_mem_zero
      whole_head := .inl rfl
      isAsciiDigit_of_mem_part := fun c hc =>
        (List.mem_append.1 hc).elim Text.isAsciiDigit_of_mem_zeros Text.isAsciiDigit_of_mem_ofNat
      power_digits := by simp
      isReal := .inl hne }
  · simp only [Spelled.text, Spelled.fraction, Spelled.tail, if_neg hne, List.append_nil,
      List.cons_append, List.nil_append]
  · apply Spelled.value_eq
    · change numeralValue (List.replicate (k + 1) '0' ++ ofNat d.digits) = d.digits
      rw [Text.numeralValue_zeros_append, Text.numeralValue_ofNat]
    · simp only [Spelled.exponent, List.length_append, List.length_replicate]
      omega

/-- A whole number: zeros between the digits and the point. -/
theorem isSpelling_whole (hd : 0 < d.digits) (h : 0 ≤ d.exponent) :
    IsSpelling (ofNat d.digits ++ List.replicate d.exponent.toNat '0' ++ ['.'] ++ ['0']) d := by
  refine ⟨⟨ofNat d.digits ++ List.replicate d.exponent.toNat '0', ['0'], none⟩, ?_, ?_, ?_⟩
  · exact {
      whole_ne_nil := List.append_ne_nil_of_left_ne_nil (Text.ofNat_ne_nil _) _
      isAsciiDigit_of_mem_whole := fun c hc =>
        (List.mem_append.1 hc).elim Text.isAsciiDigit_of_mem_ofNat Text.isAsciiDigit_of_mem_zeros
      whole_head := by
        rw [List.head?_append_of_ne_nil _ (Text.ofNat_ne_nil _)]
        exact .inr (Text.head?_ofNat_ne hd)
      isAsciiDigit_of_mem_part := isAsciiDigit_of_mem_zero
      power_digits := by simp
      isReal := .inl (by simp) }
  · simp [Spelled.text, Spelled.fraction, Spelled.tail]
  · have hvalue : numeralValue (ofNat d.digits ++ List.replicate d.exponent.toNat '0' ++ ['0'])
        = d.digits * 10 ^ (d.exponent.toNat + 1) := by
      have hzeros : List.replicate d.exponent.toNat '0' ++ ['0']
          = List.replicate (d.exponent.toNat + 1) '0' := List.replicate_succ'.symm
      rw [List.append_assoc, hzeros, Text.numeralValue_append_zeros, Text.numeralValue_ofNat]
    have hexponent : d.exponent = ((d.exponent.toNat + 1 : Nat) : ℤ) + (0 - (1 : Nat)) := by omega
    rw [Spelled.value, hvalue, Decimal.value, hexponent, zpow_add₀ (by norm_num), zpow_natCast,
      ← hexponent, Nat.cast_mul, mul_assoc]
    norm_num [Spelled.exponent]

/-- A number with digits on either side of the point. -/
theorem isSpelling_around_point (hd : 0 < d.digits) {k : Nat} (hk : 0 < k)
    (hlt : k < (ofNat d.digits).length)
    (hexponent : (k : ℤ) = (ofNat d.digits).length + d.exponent) :
    IsSpelling ((ofNat d.digits).take k ++ ['.'] ++ (ofNat d.digits).drop k) d := by
  have hwhole : (ofNat d.digits).take k ≠ [] := by
    rw [Ne, List.take_eq_nil_iff, not_or]
    exact ⟨Nat.ne_of_gt hk, Text.ofNat_ne_nil _⟩
  have hpart : (ofNat d.digits).drop k ≠ [] := by
    rw [Ne, List.drop_eq_nil_iff]
    exact Nat.not_le.2 hlt
  refine ⟨⟨(ofNat d.digits).take k, (ofNat d.digits).drop k, none⟩, ?_, ?_, ?_⟩
  · exact {
      whole_ne_nil := hwhole
      isAsciiDigit_of_mem_whole := fun _ hc =>
        Text.isAsciiDigit_of_mem_ofNat (List.mem_of_mem_take hc)
      whole_head := by
        rw [List.head?_take, if_neg (Nat.ne_of_gt hk)]
        exact .inr (Text.head?_ofNat_ne hd)
      isAsciiDigit_of_mem_part := fun _ hc =>
        Text.isAsciiDigit_of_mem_ofNat (List.mem_of_mem_drop hc)
      power_digits := by simp
      isReal := .inl hpart }
  · simp [Spelled.text, Spelled.fraction, Spelled.tail, hpart]
  · apply Spelled.value_eq
    · rw [List.take_append_drop, Text.numeralValue_ofNat]
    · simp only [Spelled.exponent, List.length_drop]
      omega

theorem isSpelling_positional (hd : 0 < d.digits) :
    IsSpelling (positional (ofNat d.digits) ((ofNat d.digits).length + d.exponent)) d := by
  unfold positional
  split
  · next h => exact isSpelling_below_one h
  · next h =>
    generalize hk : (((ofNat d.digits).length : ℤ) + d.exponent).toNat = k
    dsimp only
    by_cases hlt : k < (ofNat d.digits).length
    · have hdrop : (ofNat d.digits).drop k ≠ [] := by
        rw [Ne, List.drop_eq_nil_iff]
        exact Nat.not_le.2 hlt
      have hlength : k - ((ofNat d.digits).take k).length = 0 := by
        rw [List.length_take]
        omega
      rw [if_neg hdrop, padRight, hlength, List.replicate_zero, List.append_nil]
      exact isSpelling_around_point hd (by omega) hlt (by omega)
    · have htake : (ofNat d.digits).take k = ofNat d.digits := List.take_of_length_le (by omega)
      have hdrop : (ofNat d.digits).drop k = [] := List.drop_eq_nil_of_le (by omega)
      have hlength : k - (ofNat d.digits).length = d.exponent.toNat := by omega
      rw [htake, hdrop, if_pos rfl, padRight, hlength]
      exact isSpelling_whole hd (by omega)

theorem isSpelling_scientific (hd : 0 < d.digits) :
    IsSpelling (scientific (ofNat d.digits) ((ofNat d.digits).length + d.exponent - 1)) d := by
  obtain ⟨c, cs, hdigits⟩ := List.exists_cons_of_ne_nil (Text.ofNat_ne_nil d.digits)
  have hlength : (ofNat d.digits).length = cs.length + 1 := by rw [hdigits, List.length_cons]
  generalize hp : ((ofNat d.digits).length : ℤ) + d.exponent - 1 = p
  have hpower : numeralValue (padLeft 2 '0' (ofNat p.natAbs)) = p.natAbs := by
    rw [padLeft, Text.numeralValue_zeros_append, Text.numeralValue_ofNat]
  have hdigit : ∀ a ∈ c :: cs, isAsciiDigit a = true := by
    rw [← hdigits]
    exact fun _ => Text.isAsciiDigit_of_mem_ofNat
  refine ⟨⟨[c], cs, some (decide (p < 0), padLeft 2 '0' (ofNat p.natAbs))⟩, ?_, ?_, ?_⟩
  · exact {
      whole_ne_nil := List.cons_ne_nil _ _
      isAsciiDigit_of_mem_whole := fun a ha =>
        hdigit a (List.mem_cons.2 (.inl (List.mem_singleton.1 ha)))
      whole_head := by
        have hhead := Text.head?_ofNat_ne hd
        rw [hdigits] at hhead
        exact .inr hhead
      isAsciiDigit_of_mem_part := fun a ha => hdigit a (List.mem_cons_of_mem c ha)
      power_digits := by
        simp only [Option.mem_def, Option.some.injEq, forall_eq']
        refine ⟨List.append_ne_nil_of_right_ne_nil _ (Text.ofNat_ne_nil _), fun a ha => ?_⟩
        exact (List.mem_append.1 ha).elim Text.isAsciiDigit_of_mem_zeros
          Text.isAsciiDigit_of_mem_ofNat
      isReal := .inr (Option.some_ne_none _) }
  · rw [hdigits]
    cases cs <;> simp [Spelled.text, Spelled.fraction, Spelled.tail, scientific]
  · apply Spelled.value_eq
    · rw [List.singleton_append, ← hdigits, Text.numeralValue_ofNat]
    · simp only [Spelled.exponent, hpower, decide_eq_true_eq]
      split <;> omega

/-- A decimal is spelled by its text. -/
theorem isSpelling_decimalText (d : Decimal) : IsSpelling (decimalText d) d := by
  unfold decimalText
  dsimp only
  split
  · next h => exact isSpelling_zero h
  · next h =>
    split
    · exact isSpelling_positional (Nat.pos_of_ne_zero h)
    · exact isSpelling_scientific (Nat.pos_of_ne_zero h)

/-- A finite double is read back from its notation. -/
theorem readMagnitude?_decimalText (negative : Bool) (e : Fin 2047) (f : Fin fractionCount) :
    readMagnitude? negative (decimalText (shortest negative e f))
      = some (.finite negative e f) := by
  obtain ⟨s, hs, htext, hvalue⟩ := isSpelling_decimalText (shortest negative e f)
  rw [← htext, s.readMagnitude?_text hs, ofDecimal_congr hvalue, ofDecimal_shortest]

end PlainSearch.Double
