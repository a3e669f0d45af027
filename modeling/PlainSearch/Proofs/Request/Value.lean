/-
  Proofs/Request/Value.lean --- what a condition compares a column with.

  WHAT THIS FILE IS FOR.  A condition ends with a value: the first day of a year between quotes,
  or a number (`Sql.EndsInValue`).  In a statement both are written with the digits 0 to 9.  A
  numeral of a request may have the digits of any script, and it is put into its condition as
  it stands there:

      column operator 'numeral-01-01'                     column operator numeral

  So a condition ends with a value exactly if no other digits are in its numeral
  (`FilterRule.Makes.endsInValue_iff`).  With other digits there is a condition all the same,
  and what stands in the place of its number is read as a name if it begins with one of them
  (`Sql.isSome_readName_cons_iff`).
-/
import PlainSearch.Proofs.Request.Numeral
import PlainSearch.Proofs.Schema.Inference
import PlainSearch.Proofs.Sql.Identifier

set_option autoImplicit false

namespace PlainSearch

/-! ## Digits beyond ASCII -/

namespace Text

/-- A digit of another script lies beyond ASCII. -/
theorem ge_of_isDigit {c : Char} (h : isDigit c = true) (hc : isAsciiDigit c = false) :
    0x80 ≤ c.toNat := by
  simp only [isDigit, digitValue?, Option.isSome_map, List.find?_isSome] at h
  obtain ⟨z, hz, hrange⟩ := h
  simp only [Bool.and_eq_true, decide_eq_true_eq] at hrange
  have hlow : ∀ z ∈ digitZeros, z = 0x30 ∨ 0x80 ≤ z := by decide
  rcases hlow z hz with rfl | hge
  · simp only [isAsciiDigit, Bool.and_eq_false_iff, decide_eq_false_iff_not] at hc
    omega
  · omega

end Text

namespace Sql

/-- No word of the language begins beyond ASCII. -/
theorem isKeyword_cons_of_ge {c : Char} (hc : 0x80 ≤ c.toNat) (t : Text) :
    isKeyword (c :: t) = false := by
  have hall :
      ((reservedWords ++ refusedWords).all fun w => w.head?.all (·.toNat < 0x80)) = true := by
    decide +kernel
  rw [Bool.eq_false_iff]
  intro h
  have hmem := List.contains_iff_mem.1 h
  have hsame : Text.asciiLowerChar c = c := by
    unfold Text.asciiLowerChar
    rw [if_neg (by omega)]
  have hlt := List.all_eq_true.1 hall _ hmem
  rw [List.map_cons, hsame, List.head?_cons, Option.all_some, decide_eq_true_eq] at hlt
  omega

/-- A run that begins with a digit needs no quotes exactly if the digit is none of 0 to 9. -/
theorem isPlain_takeWhile_cons_iff {d : Char} (hd : Text.isDigit d = true) (t : Text) :
    isPlain ((d :: t).takeWhile isNameChar) = true ↔ Text.isAsciiDigit d = false := by
  constructor
  · intro hplain
    obtain ⟨⟨c, hc, hbegins⟩, -⟩ := isPlain_iff.1 hplain
    rw [List.takeWhile_cons] at hc
    split at hc
    · cases hc
      simp only [beginsName, Bool.and_eq_true, Bool.not_eq_true'] at hbegins
      exact hbegins.1.2
    · cases hc
  · intro hascii
    have hge := Text.ge_of_isDigit hd hascii
    have hname : isNameChar d = true := by
      simp [isNameChar, hge]
    have hdollar : d ≠ '$' := by
      rintro rfl
      exact absurd hge (by decide)
    rw [List.takeWhile_cons_of_pos hname]
    refine isPlain_iff.2 ⟨⟨d, rfl, ?_⟩, ?_, isKeyword_cons_of_ge hge _⟩
    · simp [beginsName, hname, hascii, hdollar]
    · intro c hc
      rw [← List.takeWhile_cons_of_pos hname] at hc
      exact List.mem_takeWhile_imp hc

/-- A text that begins with a digit begins with a name exactly if the digit is none of 0 to 9. -/
theorem isSome_readName_cons_iff {d : Char} (hd : Text.isDigit d = true) (t : Text) :
    (readName (d :: t)).isSome = true ↔ Text.isAsciiDigit d = false := by
  have hhead : (d :: t).head? ≠ some '"' := by
    intro heq
    cases heq
    exact absurd hd (by decide)
  rw [readName_of_head? hhead, ← isPlain_takeWhile_cons_iff hd t]
  split
  · next hplain => exact iff_of_true rfl hplain
  · next hplain => exact iff_of_false Bool.false_ne_true hplain

/-! ## Values -/

/-- The first day of a year of four of the digits 0 to 9, between quotes. -/
def IsYearStart (v : Text) : Prop :=
  ∃ y, v = '\'' :: (y ++ "-01-01'".toList) ∧ y.length = 4 ∧ Text.IsWhole y

/-- A whole number or one with a fraction, in the digits 0 to 9. -/
def IsNumber (v : Text) : Prop := Text.IsWhole v ∨ Text.IsDecimal v

/-- A condition that compares with the first day of a year or with a number. -/
def EndsInValue (f : Text) : Prop :=
  ∃ front v, f = front ++ ' ' :: v ∧ (IsYearStart v ∨ IsNumber v)

theorem not_mem_of_isWhole {v : Text} (h : Text.IsWhole v) : ' ' ∉ v := by
  intro hmem
  exact absurd (h.2 ' ' hmem) (by decide)

theorem isAsciiDigit_or_point_of_isNumber {v : Text} (h : IsNumber v) :
    ∀ c ∈ v, Text.isAsciiDigit c = true ∨ c = '.' := by
  intro c hc
  rcases h with h | ⟨whole, part, rfl, hwhole, hpart⟩
  · exact .inl (h.2 c hc)
  · rcases List.mem_append.1 hc with hc | hc
    · exact .inl (hwhole.2 c hc)
    · rcases List.mem_cons.1 hc with rfl | hc
      · exact .inr rfl
      · exact .inl (hpart.2 c hc)

theorem not_mem_of_isYearStart {v : Text} (h : IsYearStart v) : ' ' ∉ v := by
  obtain ⟨y, rfl, -, hy⟩ := h
  rw [List.mem_cons, List.mem_append, not_or, not_or]
  exact ⟨by decide, not_mem_of_isWhole hy, by decide⟩

theorem not_mem_of_isNumber {v : Text} (h : IsNumber v) : ' ' ∉ v := by
  intro hmem
  rcases isAsciiDigit_or_point_of_isNumber h ' ' hmem with h | h <;> exact absurd h (by decide)

/-- What stands behind the last blank of a text is one and the same. -/
theorem eq_of_append_blank {x y v w : Text} (h : x ++ ' ' :: v = y ++ ' ' :: w) (hv : ' ' ∉ v)
    (hw : ' ' ∉ w) : v = w := by
  have hback : ∀ x y v w : Text, y = x ++ v → ∀ u, ' ' :: u = v ++ ' ' :: w → ' ' ∉ u → u = w := by
    intro _ _ v w _ u hu hnot
    cases v with
    | nil => exact (List.cons.inj hu).2
    | cons a v =>
      rw [(List.cons.inj hu).2] at hnot
      exact absurd (List.mem_append_right v List.mem_cons_self) hnot
  rcases List.append_eq_append_iff.1 h with ⟨a, ha, hrest⟩ | ⟨a, ha, hrest⟩
  · exact hback x y a w ha v hrest hv
  · exact (hback y x a v ha w hrest hw).symm

/-- Behind the last blank there has to be a value. -/
theorem endsInValue_append_iff {before v : Text} (hv : ' ' ∉ v) :
    EndsInValue (before ++ ' ' :: v) ↔ IsYearStart v ∨ IsNumber v := by
  constructor
  · rintro ⟨front, w, h, hw⟩
    have hblank : ' ' ∉ w := by
      rcases hw with hw | hw
      · exact not_mem_of_isYearStart hw
      · exact not_mem_of_isNumber hw
    rwa [eq_of_append_blank h hv hblank]
  · intro h
    exact ⟨before, v, rfl, h⟩

end Sql

/-! ## Numerals as values -/

namespace Text

/-- A text without digits of other scripts. -/
def HasAsciiDigits (t : Text) : Prop := ∀ d ∈ t, isDigit d = true → isAsciiDigit d = true

theorem isWhole_iff_of_isDigits {t : Text} (h : IsDigits t) : IsWhole t ↔ HasAsciiDigits t :=
  ⟨fun hwhole d hd _ => hwhole.2 d hd, fun hascii => ⟨h.1, fun d hd => hascii d hd (h.2 d hd)⟩⟩

end Text

namespace Sql

open Text (IsDigits IsYear IsAmount HasAsciiDigits isDigit isAsciiDigit)

variable {before n y : Text}

/-- An amount is a number exactly if it has none but the digits 0 to 9. -/
theorem isNumber_iff_of_isAmount (h : IsAmount n) : IsNumber n ↔ HasAsciiDigits n := by
  constructor
  · intro hn d hd hdigit
    rcases isAsciiDigit_or_point_of_isNumber hn d hd with hascii | rfl
    · exact hascii
    · exact absurd hdigit (by decide)
  · intro hascii
    rcases h with h | ⟨whole, part, rfl, hwhole, hpart⟩
    · exact .inl ((Text.isWhole_iff_of_isDigits h).2 hascii)
    · refine .inr ⟨whole, part, rfl, (Text.isWhole_iff_of_isDigits hwhole).2 fun d hd => ?_,
        (Text.isWhole_iff_of_isDigits hpart).2 fun d hd => ?_⟩
      · exact hascii d (List.mem_append_left _ hd)
      · exact hascii d (List.mem_append_right _ (List.mem_cons_of_mem _ hd))

theorem not_mem_of_isAmount (h : IsAmount n) : ' ' ∉ n := by
  intro hmem
  rcases NumeralForm.digit_or_point_of_isAmount h ' ' hmem with h | h <;> exact absurd h (by decide)

theorem endsInValue_amount_iff (h : IsAmount n) :
    EndsInValue (before ++ ' ' :: n) ↔ HasAsciiDigits n := by
  rw [endsInValue_append_iff (not_mem_of_isAmount h), isNumber_iff_of_isAmount h]
  refine or_iff_right ?_
  -- an amount begins with a digit, and so with no quote
  rintro ⟨y, rfl, -⟩
  obtain ⟨c, u, hcons, hc⟩ := NumeralForm.exists_digit_of_isAmount h
  rw [← (List.cons.inj hcons).1] at hc
  exact absurd hc (by decide)

theorem endsInValue_year_iff (h : IsYear y) :
    EndsInValue (before ++ ' ' :: '\'' :: (y ++ "-01-01'".toList)) ↔ HasAsciiDigits y := by
  have hdigits : IsDigits y := ⟨List.ne_nil_of_length_pos (by rw [h.1]; omega), h.2⟩
  have hblank : ' ' ∉ '\'' :: (y ++ "-01-01'".toList) := by
    rw [List.mem_cons, List.mem_append, not_or, not_or]
    exact ⟨by decide, not_mem_of_isAmount (.inl hdigits), by decide⟩
  rw [endsInValue_append_iff hblank, ← Text.isWhole_iff_of_isDigits hdigits]
  constructor
  · rintro (⟨y', heq, -, hy'⟩ | hnumber)
    · rwa [List.append_cancel_right (List.cons.inj heq).2]
    · rcases isAsciiDigit_or_point_of_isNumber hnumber '\'' List.mem_cons_self with h | h <;>
        exact absurd h (by decide)
  · intro hwhole
    exact .inl ⟨y, rfl, h.1, hwhole⟩

/-- What stands in the place of a number is read as a name exactly if it begins with a digit of
another script. -/
theorem isSome_readName_amount_iff (h : IsAmount n) (behind : Text) :
    (readName (n ++ behind)).isSome = true ↔ ∀ d ∈ n.head?, isAsciiDigit d = false := by
  obtain ⟨c, u, rfl, hc⟩ := NumeralForm.exists_digit_of_isAmount h
  rw [List.cons_append, isSome_readName_cons_iff hc]
  simp

end Sql

/-! ## Conditions -/

namespace FilterRule

open Text (IsYear IsAmount HasAsciiDigits)

variable {r : FilterRule} {table : Table} {text f front rest : Text} {o : Occurrence}

/-- Every condition ends with its numeral as it stands in the text, or with the first day of it. -/
theorem Makes.exists_append (hr : r ∈ all) (h : r.Makes table text f front o rest) :
    (∃ before, f = before ++ ' ' :: '\'' :: (o.numeral ++ "-01-01'".toList) ∧ IsYear o.numeral) ∨
      ∃ before, f = before ++ ' ' :: o.numeral ∧ IsAmount o.numeral := by
  obtain ⟨R, hregular⟩ := exists_isRegular r hr
  obtain ⟨s, hs⟩ := Clause.exists_numeral_of_at? h.found.read
  have hmade := h.made
  simp only [all, List.mem_cons, List.not_mem_nil, or_false] at hr
  rcases hr with rfl | rfl | rfl | rfl | rfl
  · obtain ⟨c, -, hf⟩ := exists_of_onDate hmade
    exact .inl ⟨c ++ [' '] ++ ">=".toList, by simp [hf], NumeralForm.isYear_of_year hs⟩
  · obtain ⟨c, -, hf⟩ := exists_of_onDate hmade
    exact .inl ⟨c ++ [' '] ++ "<".toList, by simp [hf], NumeralForm.isYear_of_year hs⟩
  · obtain ⟨c, -, hf⟩ := exists_of_onNumber hmade
    exact .inr ⟨c ++ [' '] ++ "<".toList, by simp [hf], NumeralForm.isAmount_of_amount hs⟩
  · obtain ⟨c, -, hf⟩ := exists_of_onNumber hmade
    exact .inr ⟨c ++ [' '] ++ ">".toList, by simp [hf], NumeralForm.isAmount_of_amount hs⟩
  · cases hmade
    exact .inr ⟨keyColumn table ++ " =".toList, by simp, .inl (NumeralForm.isDigits_of_whole hs)⟩

theorem Makes.endsInValue_iff (hr : r ∈ all) (h : r.Makes table text f front o rest) :
    Sql.EndsInValue f ↔ HasAsciiDigits o.numeral := by
  rcases h.exists_append hr with ⟨before, rfl, hyear⟩ | ⟨before, rfl, hamount⟩
  · exact Sql.endsInValue_year_iff hyear
  · exact Sql.endsInValue_amount_iff hamount

end FilterRule

namespace Request

open Text (IsYear IsAmount HasAsciiDigits isAsciiDigit)

/-- Which conditions end with a value.  All conditions of a text do exactly if no numeral that they
are made of has digits of other scripts.  Each by itself holds its numeral as it stands in the
text, and ends with a value exactly if that has no such digits; in the place of a number, a numeral
that begins with one is read as a name. -/
theorem conditions_end_in_values_iff (table : Table) (text : Text) :
    ((∀ f ∈ filters table text, Sql.EndsInValue f) ↔
      ∀ r ∈ FilterRule.all, ∀ f front o rest, r.Makes table text f front o rest →
        HasAsciiDigits o.numeral) ∧
    ∀ r ∈ FilterRule.all, ∀ f front o rest, r.Makes table text f front o rest →
      (Sql.EndsInValue f ↔ HasAsciiDigits o.numeral) ∧
      ((∃ before, f = before ++ ' ' :: '\'' :: (o.numeral ++ "-01-01'".toList) ∧
          IsYear o.numeral) ∨
        ∃ before, f = before ++ ' ' :: o.numeral ∧ IsAmount o.numeral ∧
          ∀ behind, (Sql.readName (o.numeral ++ behind)).isSome = true ↔
            ∀ d ∈ o.numeral.head?, isAsciiDigit d = false) := by
  refine ⟨⟨?_, ?_⟩, ?_⟩
  · intro h r hr f front o rest hmakes
    have hmem := FilterRule.mem_filters_iff.2 ⟨r, hr, front, o, rest, hmakes⟩
    exact (hmakes.endsInValue_iff hr).1 (h f hmem)
  · intro h f hf
    obtain ⟨r, hr, front, o, rest, hmakes⟩ := FilterRule.mem_filters_iff.1 hf
    exact (hmakes.endsInValue_iff hr).2 (h r hr f front o rest hmakes)
  · intro r hr f front o rest hmakes
    refine ⟨hmakes.endsInValue_iff hr, ?_⟩
    rcases hmakes.exists_append hr with hyear | ⟨before, hf, hamount⟩
    · exact .inl hyear
    · exact .inr ⟨before, hf, hamount, Sql.isSome_readName_amount_iff hamount⟩

/-- An amount in the digits of another script, which is read as a name. -/
theorem conditions_end_in_values_iff_of_arabic :
    filters ⟨"t".toList, [⟨"n".toList, .integer⟩]⟩ "under ٢٠".toList = ["n < ٢٠".toList] ∧
    (FilterRule.onNumber [["less".toList, "than".toList], ["under".toList]] "<".toList).Makes
      ⟨"t".toList, [⟨"n".toList, .integer⟩]⟩ "under ٢٠".toList "n < ٢٠".toList []
      ⟨"under".toList, [' '], "٢٠".toList⟩ [] ∧
    ¬ Sql.EndsInValue "n < ٢٠".toList ∧
    (Sql.readName "٢٠".toList).isSome = true ∧
    ¬ ∀ f ∈ filters ⟨"t".toList, [⟨"n".toList, .integer⟩]⟩ "under ٢٠".toList,
      Sql.EndsInValue f := by
  have hfilters : filters ⟨"t".toList, [⟨"n".toList, .integer⟩]⟩ "under ٢٠".toList
      = ["n < ٢٠".toList] := by decide +kernel
  have hrule : FilterRule.onNumber [["less".toList, "than".toList], ["under".toList]] "<".toList
      ∈ FilterRule.all := by simp [FilterRule.all]
  have hmakes : (FilterRule.onNumber [["less".toList, "than".toList], ["under".toList]]
      "<".toList).Makes ⟨"t".toList, [⟨"n".toList, .integer⟩]⟩ "under ٢٠".toList "n < ٢٠".toList []
      ⟨"under".toList, [' '], "٢٠".toList⟩ [] :=
    ⟨⟨by decide, by decide +kernel, fun _ _ _ hlt => absurd hlt (Nat.not_lt_zero _)⟩, by decide⟩
  have hdigits : ¬ HasAsciiDigits "٢٠".toList := fun h =>
    absurd (h '٢' (by decide) (by decide)) (by decide)
  obtain ⟨hall, heach⟩ := conditions_end_in_values_iff ⟨"t".toList, [⟨"n".toList, .integer⟩]⟩
    "under ٢٠".toList
  obtain ⟨hends, hyear | ⟨-, -, -, hname⟩⟩ := heach _ hrule _ _ _ _ hmakes
  · obtain ⟨-, -, hlength, -⟩ := hyear
    exact absurd hlength (by decide)
  · have hfirst : ∀ d ∈ "٢٠".toList.head?, isAsciiDigit d = false := by
      rintro d ⟨⟩
      decide
    exact ⟨hfilters, hmakes, fun h => hdigits (hends.1 h), (hname []).2 hfirst,
      fun h => hdigits (hall.1 h _ hrule _ _ _ _ hmakes)⟩

end Request
end PlainSearch
