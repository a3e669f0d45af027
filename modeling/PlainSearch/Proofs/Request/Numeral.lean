/-
  Proofs/Request/Numeral.lean --- whether a clause takes the whole of the number that stands there.

  WHAT THIS FILE IS FOR.  A numeral is taken out of the digits that stand in a text.  Behind it
  there may be more of them, and then the clause acts on a part of the number only.

      bounds take the longest amount, and so all the digits there are;
      keys and limits take digits that end a word, and a digit would go on with it;
      years take four digits, and nothing is asked of what stands behind them.

  So the first two are never cut.  A year is cut exactly if the first place of its keyword, with
  a gap and four digits behind it, has five digits or more (`Request.YearIsCut`), and this is
  the only way in which a condition comes to act on a part of a number
  (`Request.numeral_cut_iff`).
-/
import PlainSearch.Proofs.Request.Filter
import PlainSearch.Proofs.Request.Place

set_option autoImplicit false

namespace PlainSearch

/-! ## Digits behind a numeral -/

namespace Text

/-- A text that begins with a digit. -/
def BeginsWithDigit (t : Text) : Prop := ∃ c ∈ t.head?, isDigit c = true

theorem not_beginsWithDigit_iff {t : Text} :
    ¬ BeginsWithDigit t ↔ ∀ c ∈ t.head?, isDigit c = false := by
  simp only [BeginsWithDigit, not_exists, not_and, Bool.not_eq_true]

end Text

namespace NumeralForm

open Text (isDigit IsDigits IsYear IsAmount BeginsWithDigit)

variable {n r : Text}

theorem isDigits_concat {d : Char} (h : IsDigits n) (hd : isDigit d = true) :
    IsDigits (n ++ [d]) := by
  refine ⟨List.append_ne_nil_of_right_ne_nil n (List.cons_ne_nil d []), fun c hc => ?_⟩
  rcases List.mem_append.1 hc with hc | hc
  · exact h.2 c hc
  · exact List.mem_singleton.1 hc ▸ hd

theorem isAmount_concat {d : Char} (h : IsAmount n) (hd : isDigit d = true) :
    IsAmount (n ++ [d]) := by
  rcases h with h | ⟨whole, part, rfl, hwhole, hpart⟩
  · exact .inl (isDigits_concat h hd)
  · exact .inr ⟨whole, part ++ [d], by simp, hwhole, isDigits_concat hpart hd⟩

/-- The longest amount takes all the digits. -/
theorem not_beginsWithDigit_of_longest (h : IsLongestAmount n r) : ¬ BeginsWithDigit r := by
  rintro ⟨d, hd, hdigit⟩
  obtain ⟨s, rfl⟩ := List.head?_eq_some_iff.1 hd
  have hle := h.2 (n ++ [d]) s (by simp) (isAmount_concat h.1 hdigit)
  rw [List.length_append, List.length_singleton] at hle
  omega

/-- Digits that end a word are all the digits. -/
theorem not_beginsWithDigit_of_whole (h : ∀ c ∈ r.head?, Text.isWordChar c = false) :
    ¬ BeginsWithDigit r := by
  rintro ⟨d, hd, hdigit⟩
  exact Bool.false_ne_true ((h d hd).symm.trans (Text.isWordChar_of_isDigit hdigit))

/-- Four digits, and one behind them, are the first of a run of more than four. -/
theorem exists_run_of_beginsWithDigit (hn : IsYear n) (hr : BeginsWithDigit r) :
    ∃ run more, n ++ r = run ++ more ∧ IsDigits run ∧ 4 < run.length ∧ ¬ BeginsWithDigit more := by
  obtain ⟨d, hd, hdigit⟩ := hr
  obtain ⟨s, rfl⟩ := List.head?_eq_some_iff.1 hd
  have hfive : IsDigits (n ++ [d]) :=
    isDigits_concat ⟨List.ne_nil_of_length_pos (by rw [hn.1]; omega), hn.2⟩ hdigit
  obtain ⟨c, u, hcons, hc⟩ := exists_digit_of_isDigits hfive
  have htext : n ++ d :: s = n ++ [d] ++ s := by simp
  obtain ⟨run, hrun⟩ := exists_digits_cons hc (u ++ s)
  rw [← List.cons_append, ← hcons, ← htext] at hrun
  obtain ⟨more, hsplit, hdigits, hmore⟩ := digits_eq_some_iff.1 hrun
  refine ⟨run, more, hsplit, hdigits, ?_, Text.not_beginsWithDigit_iff.2 hmore⟩
  have hle := length_le_of_digits hfive.2 hmore (htext.symm.trans hsplit)
  rw [List.length_append, List.length_singleton, hn.1] at hle
  omega

/-- A run of more than four digits has a digit behind its first four. -/
theorem isYear_take_four {run : Text} (h : IsDigits run) (hlength : 4 < run.length) (more : Text) :
    IsYear (run.take 4) ∧ BeginsWithDigit (run.drop 4 ++ more) := by
  refine ⟨⟨by rw [List.length_take]; omega, fun c hc => h.2 c (List.mem_of_mem_take hc)⟩, ?_⟩
  obtain ⟨d, s, hd⟩ : ∃ d s, run.drop 4 = d :: s :=
    List.exists_cons_of_ne_nil (List.ne_nil_of_length_pos (by rw [List.length_drop]; omega))
  have hmem : d ∈ run.drop 4 := hd ▸ List.mem_cons_self
  exact ⟨d, by rw [hd]; rfl, h.2 d (List.mem_of_mem_drop hmem)⟩

end NumeralForm

/-! ## Conditions at their places -/

namespace FilterRule

variable {r : FilterRule} {table : Table} {text f front rest : Text} {o : Occurrence}

/-- The condition `f` that a rule makes of the first occurrence `o` of its clause. -/
structure Makes (r : FilterRule) (table : Table) (text f front : Text) (o : Occurrence)
    (rest : Text) : Prop where
  found : r.clause.FoundAt text front o rest
  made : r.condition? table o.numeral = some f

theorem found?_eq_some_iff_makes (hr : r ∈ all) :
    r.found? table text = some f ↔ ∃ front o rest, r.Makes table text f front o rest := by
  obtain ⟨R, hregular⟩ := exists_isRegular r hr
  rw [found?, Option.bind_eq_some_iff]
  constructor
  · rintro ⟨o, ho, hf⟩
    obtain ⟨front, rest, hfound⟩ := (Clause.first?_eq_some_iff hregular).1 ho
    exact ⟨front, o, rest, hfound, hf⟩
  · rintro ⟨front, o, rest, hfound, hf⟩
    exact ⟨o, (Clause.first?_eq_some_iff hregular).2 ⟨front, rest, hfound⟩, hf⟩

/-- The conditions of a text are those that some rule makes of an occurrence. -/
theorem mem_filters_iff :
    f ∈ Request.filters table text ↔
      ∃ r ∈ all, ∃ front o rest, r.Makes table text f front o rest := by
  rw [Request.filters_eq_filterMap, List.mem_filterMap]
  exact exists_congr fun r => and_congr_right fun hr => found?_eq_some_iff_makes hr

theorem Makes.isGap (hr : r ∈ all) (h : r.Makes table text f front o rest) :
    Text.IsGap o.gap := by
  obtain ⟨R, hregular⟩ := exists_isRegular r hr
  obtain ⟨-, -, -, hgap, -⟩ := (Clause.foundAt_iff hregular).1 h.found
  exact hgap

/-- A rule whose numeral has a digit behind it is one of the two about years. -/
theorem Makes.onDate_of_beginsWithDigit (hr : r ∈ all) (h : r.Makes table text f front o rest)
    (hrest : Text.BeginsWithDigit rest) :
    ∃ keyword ∈ ["after".toList, "before".toList], ∃ operator, r = onDate keyword operator := by
  have hnumber {keywords : List Keyword} {operator : Text}
      (hdistinct : Clause.areDistinct keywords = true)
      (hmakes : (onNumber keywords operator).Makes table text f front o rest) : False := by
    obtain ⟨-, -, -, -, hn, -⟩ :=
      (Clause.foundAt_iff (isRegular_onNumber hdistinct)).1 hmakes.found
    exact NumeralForm.not_beginsWithDigit_of_longest hn hrest
  simp only [all, List.mem_cons, List.not_mem_nil, or_false] at hr
  rcases hr with rfl | rfl | rfl | rfl | rfl
  · exact ⟨_, List.mem_cons_self, _, rfl⟩
  · exact ⟨_, List.mem_cons_of_mem _ List.mem_cons_self, _, rfl⟩
  · exact (hnumber (by decide) h).elim
  · exact (hnumber (by decide) h).elim
  · obtain ⟨-, -, -, -, ⟨-, hend⟩, -⟩ := (Clause.foundAt_iff isRegular_onKey).1 h.found
    exact (NumeralForm.not_beginsWithDigit_of_whole hend hrest).elim

end FilterRule

namespace Request

open Text (IsYear IsDigits IsGap BeginsWithDigit isWordChar)

/-- Five digits or more stand where the keyword, a gap and four digits stand first. -/
def YearIsCut (keyword text : Text) : Prop :=
  ∃ front gap run rest, text = front ++ (keyword ++ (gap ++ (run ++ rest))) ∧
    (∀ c ∈ front.getLast?, isWordChar c = false) ∧ IsGap gap ∧ IsDigits run ∧ 4 < run.length ∧
    ¬ BeginsWithDigit rest ∧
    ∀ p n, Clause.Occurs [[keyword]] (fun n _ => IsYear n) text p n → front.length ≤ p

variable {table : Table} {text keyword operator : Text}

/-- A rule about years makes a condition of a part of a number exactly if the table has a column for
it and the year is cut. -/
theorem exists_makes_onDate_iff (hkeyword : keyword ∈ ["after".toList, "before".toList]) :
    (∃ f front o rest, (FilterRule.onDate keyword operator).Makes table text f front o rest ∧
        BeginsWithDigit rest) ↔
      (∃ c, table.IsFirstOf [.timestamp] c) ∧ YearIsCut keyword text := by
  have hregular : (FilterRule.onDate keyword operator).clause.IsRegular fun n _ => IsYear n :=
    FilterRule.isRegular_onDate hkeyword
  constructor
  · rintro ⟨f, front, o, rest, ⟨hfound, hmade⟩, hrest⟩
    obtain ⟨c, hc, -⟩ := FilterRule.exists_of_onDate hmade
    obtain ⟨htext, hbefore, ⟨k, hk, hspelled⟩, hgap, hn, hleast⟩ :=
      (Clause.foundAt_iff hregular).1 hfound
    obtain ⟨run, more, hrun, hdigits, hlength, hmore⟩ :=
      NumeralForm.exists_run_of_beginsWithDigit hn hrest
    have hkw : o.keyword = keyword := by
      rw [List.mem_singleton.1 hk] at hspelled
      cases hspelled
      rfl
    refine ⟨⟨c, hc⟩, front, o.gap, run, more, ?_, hbefore, hgap, hdigits, hlength, hmore, hleast⟩
    rw [htext, Occurrence.text, hkw, ← hrun, List.append_assoc, List.append_assoc]
  · rintro ⟨⟨c, hc⟩, front, gap, run, more, htext, hbefore, hgap, hdigits, hlength, -, hleast⟩
    obtain ⟨hyear, hrest⟩ := NumeralForm.isYear_take_four hdigits hlength more
    obtain ⟨column, hcolumn, -⟩ := Table.isFirstOf_iff.1 hc
    obtain ⟨f, hmade⟩ :
        ∃ f, (FilterRule.onDate keyword operator).condition? table (run.take 4) = some f := by
      simp only [FilterRule.onDate, hcolumn, Option.map_some]
      exact ⟨_, rfl⟩
    refine ⟨f, front, ⟨keyword, gap, run.take 4⟩, run.drop 4 ++ more, ⟨?_, hmade⟩, hrest⟩
    refine (Clause.foundAt_iff hregular).2 ⟨?_, hbefore, ⟨[keyword], List.mem_singleton_self _,
      .word keyword⟩, hgap, hyear, hleast⟩
    have hrun : run ++ more = run.take 4 ++ (run.drop 4 ++ more) := by
      rw [← List.append_assoc, List.take_append_drop]
    rw [htext, hrun, Occurrence.text, List.append_assoc, List.append_assoc]

/-- A limit is found with all the digits that stand there. -/
theorem exists_foundAt_of_limit? {n : Nat} (h : limit? text = .ok (some n)) :
    ∃ front o rest, limitClause.FoundAt text front o rest ∧ n = Text.numeralValue o.numeral ∧
      IsGap o.gap ∧ ¬ BeginsWithDigit rest := by
  unfold limit? at h
  split at h
  · cases h
  · next o ho =>
    obtain ⟨front, rest, hfound⟩ := (Clause.first?_eq_some_iff isRegular_limitClause).1 ho
    obtain ⟨-, -, -, hgap, ⟨-, hend⟩, -⟩ := (Clause.foundAt_iff isRegular_limitClause).1 hfound
    refine ⟨front, o, rest, hfound, ?_, hgap, NumeralForm.not_beginsWithDigit_of_whole hend⟩
    split at h
    · next m hm =>
      cases h
      exact (readNumeral_eq_ok_iff.1 hm).2
    · cases h

/-- Which conditions act on a part of a number.  Every condition is made of an occurrence of its
clause, with a gap in front of the numeral.  A digit stands behind the numeral only with the
keywords after and before, and with these exactly if the table has a column for years and five
digits or more stand where the keyword stands first with four.  A limit never is a part of a
number. -/
theorem numeral_cut_iff (table : Table) (text : Text) :
    (∀ f, f ∈ filters table text ↔
      ∃ r ∈ FilterRule.all, ∃ front o rest, r.Makes table text f front o rest) ∧
    (∀ r ∈ FilterRule.all, ∀ f front o rest, r.Makes table text f front o rest →
      IsGap o.gap ∧ (BeginsWithDigit rest →
        ∃ keyword ∈ ["after".toList, "before".toList], ∃ operator,
          r = FilterRule.onDate keyword operator)) ∧
    ((∃ r ∈ FilterRule.all, ∃ f front o rest,
        r.Makes table text f front o rest ∧ BeginsWithDigit rest) ↔
      (∃ c, table.IsFirstOf [.timestamp] c) ∧
        ∃ keyword ∈ ["after".toList, "before".toList], YearIsCut keyword text) ∧
    ∀ n, limit? text = .ok (some n) →
      ∃ front o rest, limitClause.FoundAt text front o rest ∧ n = Text.numeralValue o.numeral ∧
        IsGap o.gap ∧ ¬ BeginsWithDigit rest := by
  refine ⟨fun f => FilterRule.mem_filters_iff, ?_, ?_, fun n hn => exists_foundAt_of_limit? hn⟩
  · intro r hr f front o rest hmakes
    exact ⟨hmakes.isGap hr, hmakes.onDate_of_beginsWithDigit hr⟩
  · constructor
    · rintro ⟨r, hr, f, front, o, rest, hmakes, hrest⟩
      obtain ⟨keyword, hkeyword, operator, rfl⟩ := hmakes.onDate_of_beginsWithDigit hr hrest
      obtain ⟨hcolumn, hcut⟩ :=
        (exists_makes_onDate_iff hkeyword).1 ⟨f, front, o, rest, hmakes, hrest⟩
      exact ⟨hcolumn, keyword, hkeyword, hcut⟩
    · rintro ⟨hcolumn, keyword, hkeyword, hcut⟩
      obtain ⟨operator, hr⟩ : ∃ operator, FilterRule.onDate keyword operator ∈ FilterRule.all := by
        simp only [List.mem_cons, List.not_mem_nil, or_false] at hkeyword
        rcases hkeyword with rfl | rfl
        · exact ⟨_, List.mem_cons_self⟩
        · exact ⟨_, List.mem_cons_of_mem _ List.mem_cons_self⟩
      exact ⟨_, hr, (exists_makes_onDate_iff hkeyword).2 ⟨hcolumn, hcut⟩⟩

/-- A number of five digits behind after, and the four of them that become a year. -/
theorem numeral_cut_iff_of_five_digits :
    filters ⟨"t".toList, [⟨"made".toList, .timestamp⟩]⟩ "after 12345 top 30".toList
      = ["made >= '1234-01-01'".toList] ∧
    YearIsCut "after".toList "after 12345 top 30".toList ∧
    (∃ r ∈ FilterRule.all, ∃ f front o rest,
      r.Makes ⟨"t".toList, [⟨"made".toList, .timestamp⟩]⟩ "after 12345 top 30".toList f front o
        rest ∧ BeginsWithDigit rest) ∧
    limit? "after 12345 top 30".toList = .ok (some 30) ∧
    ∃ front o rest, limitClause.FoundAt "after 12345 top 30".toList front o rest ∧
      30 = Text.numeralValue o.numeral ∧ IsGap o.gap ∧ ¬ BeginsWithDigit rest := by
  have hlimit : limit? "after 12345 top 30".toList = .ok (some 30) := by rfl
  have hcut : YearIsCut "after".toList "after 12345 top 30".toList := by
    have hgap : IsGap [' '] := ⟨by decide, List.forall_mem_singleton.2 (by decide)⟩
    have hrun : IsDigits "12345".toList := ⟨by decide, List.all_eq_true.1 (by decide)⟩
    have hrest : ¬ BeginsWithDigit " top 30".toList := by
      rintro ⟨c, hc, hdigit⟩
      cases hc
      exact absurd hdigit (by decide)
    exact ⟨[], [' '], "12345".toList, " top 30".toList, rfl, nofun, hgap, hrun, by decide, hrest,
      fun p _ _ => Nat.zero_le p⟩
  obtain ⟨-, -, hiff, hlimits⟩ := numeral_cut_iff ⟨"t".toList, [⟨"made".toList, .timestamp⟩]⟩
    "after 12345 top 30".toList
  refine ⟨by decide +kernel, hcut, hiff.2 ⟨⟨"made".toList, ?_⟩, _, List.mem_cons_self, hcut⟩,
    hlimit, hlimits 30 hlimit⟩
  exact ⟨[], _, [], rfl, rfl, List.mem_singleton_self _, nofun⟩

end Request
end PlainSearch
