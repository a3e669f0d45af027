/-
  Proofs/Request/Limit.lean --- which limit a text has, and how a statement words it.

  WHAT THIS FILE IS FOR.  A limit stands in a text (`LimitStands`) where

      text  =  front  word  gap  digits  rest

  with top or first for the word, no word character at the end of the front, and none at the
  beginning of the rest.  A text has a limit exactly if one stands in it somewhere, and the
  first place supplies the digits.  A place that misses one of these things, as the beginning
  of first 12th does, is no place, and so it hides none.

  FROM DIGITS TO A NUMBER AND BACK.  The digits may be those of any script, with zeros in front.
  What they are worth is their value in base ten (`Text.numeralValue_eq_ofDigits`).  A
  statement ends with that number in the digits 0 to 9 and without zeros in front
  (`Text.IsDecimalOf`), which reads as the same number again (`readNumeral_ofNat_of_digits`).
-/
import Mathlib.Data.Nat.Digits.Defs
import PlainSearch.Proofs.Request.Place
import PlainSearch.Proofs.Schema.Inference

set_option autoImplicit false

namespace PlainSearch

/-! ## Numbers and their digits -/

namespace Text

variable {t d : Text} {n : Nat}

theorem digitValue?_of_isDigit {c : Char} (h : isDigit c = true) :
    ∃ v, digitValue? c = some v ∧ v < 10 := by
  obtain ⟨v, hv⟩ := Option.isSome_iff_exists.1 h
  exact ⟨v, hv, digitValue?_lt hv⟩

theorem length_filterMap_digitValue? (h : ∀ c ∈ t, isDigit c = true) :
    (t.filterMap digitValue?).length = t.length := by
  induction t with
  | nil => rfl
  | cons c t ih =>
    obtain ⟨v, hv, -⟩ := digitValue?_of_isDigit (h c List.mem_cons_self)
    rw [List.filterMap_cons_some hv, List.length_cons, List.length_cons,
      ih fun a ha => h a (List.mem_cons_of_mem c ha)]

/-- A run of digits is worth what it says in base ten, its last digit being the ones. -/
theorem numeralValue_eq_ofDigits (h : ∀ c ∈ t, isDigit c = true) :
    numeralValue t = Nat.ofDigits 10 (t.filterMap digitValue?).reverse := by
  induction t with
  | nil => rfl
  | cons c t ih =>
    obtain ⟨v, hv, -⟩ := digitValue?_of_isDigit (h c List.mem_cons_self)
    have hrest : ∀ a ∈ t, isDigit a = true := fun a ha => h a (List.mem_cons_of_mem c ha)
    have hfirst : numeralValue [c] = v := by simp [numeralValue, hv]
    rw [List.filterMap_cons_some hv, Nat.ofDigits_reverse_cons, length_filterMap_digitValue? hrest,
      ← ih hrest, ← List.singleton_append, numeralValue_append, hfirst]
    ring

/-- A run of `k` digits is worth less than the `k`th power of ten. -/
theorem numeralValue_lt (h : ∀ c ∈ t, isDigit c = true) : numeralValue t < 10 ^ t.length := by
  rw [numeralValue_eq_ofDigits h, ← length_filterMap_digitValue? h, ← List.length_reverse]
  refine Nat.ofDigits_lt_base_pow_length (by decide) fun v hv => ?_
  obtain ⟨c, -, hc⟩ := List.mem_filterMap.1 (List.mem_reverse.1 hv)
  exact digitValue?_lt hc

/-- A text is the number `n` in the digits 0 to 9, without zeros in front. -/
structure IsDecimalOf (d : Text) (n : Nat) : Prop where
  whole : IsWhole d
  /-- a zero in front is all there is -/
  head : d.head? = some '0' → d = ['0']
  value : numeralValue d = n

theorem isDecimalOf_ofNat (n : Nat) : IsDecimalOf (ofNat n) n where
  whole := ⟨ofNat_ne_nil n, fun _ hc => isAsciiDigit_of_mem_ofNat hc⟩
  head hzero := by
    rcases Nat.eq_zero_or_pos n with rfl | hpos
    · rfl
    · exact absurd hzero (head?_ofNat_ne hpos)
  value := numeralValue_ofNat n

end Text

/-- A number that was read off digits is read off its decimal, which has no more of them. -/
theorem readNumeral_ofNat_of_digits {ds : Text} (hne : ds ≠ [])
    (hds : ∀ c ∈ ds, Text.isDigit c = true) (hlength : ds.length ≤ numeralLimit) :
    readNumeral (Text.ofNat (Text.numeralValue ds)) = .ok (Text.numeralValue ds) := by
  refine readNumeral_eq_ok_iff.2 ⟨?_, (Text.numeralValue_ofNat _).symm⟩
  have hpos : 0 < ds.length := List.length_pos_iff.2 hne
  exact Nat.le_trans ((Text.length_ofNat_le_iff hpos).2 (Text.numeralValue_lt hds)) hlength

namespace Request

open Text (IsDigits IsGap IsDecimalOf isWordChar)

variable {text front n : Text}

/-! ## Where a limit stands -/

/-- A limit stands in a text behind `front`, and `n` is its numeral: a word of its own, top or
first, with a gap and digits behind it that end a word. -/
def LimitStands (text front n : Text) : Prop :=
  ∃ word gap rest, text = front ++ (word ++ (gap ++ (n ++ rest))) ∧
    (∀ c ∈ front.getLast?, isWordChar c = false) ∧ word ∈ ["top".toList, "first".toList] ∧
    IsGap gap ∧ IsDigits n ∧ ∀ c ∈ rest.head?, isWordChar c = false

/-- A limit stands behind `front`, and none further to the front. -/
def LimitStandsFirst (text front n : Text) : Prop :=
  LimitStands text front n ∧
    ∀ front' n', LimitStands text front' n' → front.length ≤ front'.length

/-- The keywords of a limit are single words. -/
theorem spelled_limitClause_iff {word : Text} :
    (∃ k ∈ limitClause.keywords, k.Spelled word) ↔ word ∈ ["top".toList, "first".toList] := by
  have hspelled (w : Text) : Keyword.Spelled [w] word ↔ word = w := by
    constructor
    · rintro ⟨⟩
      rfl
    · rintro rfl
      exact .word word
  simp only [limitClause, List.mem_cons, List.not_mem_nil, or_false, exists_eq_or_imp,
    exists_eq_left, hspelled]

theorem exists_limitStands_iff {p : Nat} :
    (∃ front, front.length = p ∧ LimitStands text front n) ↔
      Clause.Occurs limitClause.keywords
        (fun n r => IsDigits n ∧ ∀ c ∈ r.head?, isWordChar c = false) text p n := by
  constructor
  · rintro ⟨front, hp, word, gap, rest, htext, hbefore, hword, hgap, hn, hrest⟩
    obtain ⟨k, hk, hspelled⟩ := spelled_limitClause_iff.2 hword
    exact ⟨front, k, word, gap, rest, htext, hp, hbefore, hk, hspelled, hgap, hn, hrest⟩
  · rintro ⟨front, k, word, gap, rest, htext, hp, hbefore, hk, hspelled, hgap, hn, hrest⟩
    have hword := spelled_limitClause_iff.1 ⟨k, hk, hspelled⟩
    exact ⟨front, hp, word, gap, rest, htext, hbefore, hword, hgap, hn, hrest⟩

/-- The clause of limits is found where a limit stands first. -/
theorem exists_first?_limitClause_iff :
    (∃ o, limitClause.first? text = some o ∧ o.numeral = n) ↔
      ∃ front, LimitStandsFirst text front n := by
  rw [Clause.exists_first?_iff isRegular_limitClause.clear isRegular_limitClause.reads]
  constructor
  · rintro ⟨p, hoccurs, hleast⟩
    obtain ⟨front, rfl, hstands⟩ := exists_limitStands_iff.2 hoccurs
    exact ⟨front, hstands, fun front' n' h' =>
      hleast _ _ (exists_limitStands_iff.1 ⟨front', rfl, h'⟩)⟩
  · rintro ⟨front, hstands, hleast⟩
    refine ⟨front.length, exists_limitStands_iff.1 ⟨front, rfl, hstands⟩, fun q m hq => ?_⟩
    obtain ⟨front', rfl, h'⟩ := exists_limitStands_iff.2 hq
    exact hleast front' m h'

/-- Where limits stand, one of them stands first. -/
theorem exists_limitStandsFirst (h : LimitStands text front n) :
    ∃ front n, LimitStandsFirst text front n := by
  have hsome : ∃ p front n, front.length = p ∧ LimitStands text front n := ⟨_, front, n, rfl, h⟩
  classical
  obtain ⟨front', n', hlength, hstands⟩ := Nat.find_spec hsome
  refine ⟨front', n', hstands, fun front'' n'' h'' => ?_⟩
  rw [hlength]
  exact Nat.find_min' hsome ⟨front'', n'', rfl, h''⟩

/-- The limit of a text is the numeral of the first one that stands in it. -/
theorem limit?_of_limitStandsFirst (h : LimitStandsFirst text front n) :
    limit? text = (readNumeral n).map some := by
  obtain ⟨o, ho, rfl⟩ := exists_first?_limitClause_iff.2 ⟨front, h⟩
  simp only [limit?, ho]
  cases readNumeral o.numeral <;> rfl

/-- A text has no limit exactly if none stands in it. -/
theorem limit?_eq_none_iff : limit? text = .ok none ↔ ∀ front n, ¬ LimitStands text front n := by
  constructor
  · intro hnone front n h
    obtain ⟨front', n', hfirst⟩ := exists_limitStandsFirst h
    rw [limit?_of_limitStandsFirst hfirst] at hnone
    cases hread : readNumeral n' <;>
    · rw [hread] at hnone
      cases hnone
  · intro h
    unfold limit?
    cases ho : limitClause.first? text with
    | none => rfl
    | some o =>
      obtain ⟨front, hfirst, -⟩ := exists_first?_limitClause_iff.1 ⟨o, ho, rfl⟩
      exact absurd hfirst (h front o.numeral)

/-! ## The limit of a statement -/

theorem limit_of_plan {settings : Settings} {catalog : Catalog} {raw : Text} {p : Plan} {m : Nat}
    (hlimit : limit? (normalize raw) = .ok (some m))
    (h : (plan settings catalog raw).outcome = .ok (some p)) : p.limit = some (Int.ofNat m) := by
  obtain ⟨target, e, k, -, -, hk, rfl⟩ := plan_eq_some_iff.1 h
  cases hlimit.symm.trans hk
  rfl

/-- The statement of a plan ends with its limit. -/
theorem exists_statement_eq_append_limit {settings : Settings} {p : Plan} {m : Nat}
    (h : p.limit = some (Int.ofNat m)) :
    ∃ before, p.statement settings = before ++ (" LIMIT ".toList ++ Text.ofNat m) := by
  have hrows : (p.limit.toList.map ("LIMIT ".toList ++ Text.ofInt ·)).flatMap ([' '] ++ ·)
      = " LIMIT ".toList ++ Text.ofNat m := by
    rw [h]
    simp [Text.ofInt]
  refine ⟨searchFront settings p ++ Sql.literalBody p.expression ++ '\'' ::
    ((p.filters.map ("AND ".toList ++ ·)).flatMap ([' '] ++ ·) ++
      (p.order.toList.filter (· ≠ [])).flatMap ([' '] ++ ·)), ?_⟩
  rw [statement_eq, hrows]
  simp only [List.append_assoc, List.cons_append]

/-- Which limit a text has.  It has one exactly if one stands in it, and the first one that does
supplies the digits.  If they are not too many, the limit is their value in base ten; a request in
this normal form has it in its plan, and the statement of a plan with it ends with the number in
the digits 0 to 9, without zeros in front, which is read as the same number. -/
theorem limit_exact (text : Text) :
    (limit? text ≠ .ok none ↔ ∃ front n, LimitStands text front n) ∧
    ∀ front n, LimitStandsFirst text front n →
      (numeralLimit < n.length → limit? text = .error (.longNumeral n.length)) ∧
      (n.length ≤ numeralLimit →
        ∃ m, m = Nat.ofDigits 10 (n.filterMap Text.digitValue?).reverse ∧
          limit? text = .ok (some m) ∧
          (∀ settings catalog raw p, normalize raw = text →
            (plan settings catalog raw).outcome = .ok (some p) →
            p.limit = some (Int.ofNat m)) ∧
          ∀ settings (p : Plan), p.limit = some (Int.ofNat m) →
            ∃ before d, p.statement settings = before ++ (" LIMIT ".toList ++ d) ∧
              IsDecimalOf d m ∧ readNumeral d = .ok m) := by
  constructor
  · rw [ne_eq, limit?_eq_none_iff]
    simp only [not_forall, not_not]
  · intro front n hfirst
    have hlimit := limit?_of_limitStandsFirst hfirst
    obtain ⟨⟨-, -, -, -, -, -, -, ⟨hne, hdigits⟩, -⟩, -⟩ := hfirst
    constructor
    · intro hlong
      rw [hlimit, readNumeral, if_pos hlong]
      rfl
    · intro hlength
      have hread : readNumeral n = .ok (Text.numeralValue n) :=
        readNumeral_eq_ok_iff.2 ⟨hlength, rfl⟩
      rw [hread] at hlimit
      refine ⟨Text.numeralValue n, Text.numeralValue_eq_ofDigits hdigits, hlimit, ?_, ?_⟩
      · rintro settings catalog raw p rfl hp
        exact limit_of_plan hlimit hp
      · intro settings p hp
        obtain ⟨before, hstatement⟩ := exists_statement_eq_append_limit hp
        exact ⟨before, _, hstatement, Text.isDecimalOf_ofNat _,
          readNumeral_ofNat_of_digits hne hdigits hlength⟩

/-- A limit in digits of another script with a zero in front, behind a number that ends no word and
a keyword that begins none. -/
theorem limit_exact_behind_near_misses :
    normalize "Books First 12th stop 5 TOP ٠٣.".toList
      = "books first 12th stop 5 top ٠٣.".toList ∧
    (∃ front, LimitStandsFirst "books first 12th stop 5 top ٠٣.".toList front "٠٣".toList) ∧
    limit? "books first 12th stop 5 top ٠٣.".toList = .ok (some 3) ∧
    ∃ p, (plan {} ⟨[⟨"books".toList, []⟩]⟩ "Books First 12th stop 5 TOP ٠٣.".toList).outcome
        = .ok (some p) ∧ p.limit = some 3 ∧
      ∃ before d, p.statement {} = before ++ (" LIMIT ".toList ++ d) ∧ IsDecimalOf d 3 := by
  have hnormal : normalize "Books First 12th stop 5 TOP ٠٣.".toList
      = "books first 12th stop 5 top ٠٣.".toList := by decide +kernel
  have hfirst : ∃ front,
      LimitStandsFirst "books first 12th stop 5 top ٠٣.".toList front "٠٣".toList :=
    exists_first?_limitClause_iff.1
      ⟨⟨"top".toList, [' '], "٠٣".toList⟩, by decide +kernel, rfl⟩
  obtain ⟨front, hstands⟩ := hfirst
  obtain ⟨-, hshort⟩ :=
    (limit_exact "books first 12th stop 5 top ٠٣.".toList).2 front _ hstands
  obtain ⟨m, rfl, hlimit, hplan, hstatement⟩ := hshort (by decide)
  have hvalue : Nat.ofDigits 10 ("٠٣".toList.filterMap Text.digitValue?).reverse = 3 := by decide
  rw [hvalue] at hlimit hplan hstatement
  obtain ⟨p, hp⟩ : ∃ p, (plan {} ⟨[⟨"books".toList, []⟩]⟩
      "Books First 12th stop 5 TOP ٠٣.".toList).outcome = .ok (some p) := ⟨_, rfl⟩
  have hthree := hplan _ _ _ p hnormal hp
  obtain ⟨before, d, heq, hd, -⟩ := hstatement {} p hthree
  exact ⟨hnormal, ⟨front, hstands⟩, hlimit, p, hp, hthree, before, d, heq, hd⟩

end Request
end PlainSearch
