/-
  Proofs/Request/Margin.lean --- blanks around search terms make no difference.

  WHAT THIS FILE IS FOR.  Search terms may begin or end with blanks.  Every step on the way to
  an expression hands them on at the ends and does the same with what stands between:

      the blanks are no part of a phrase          (`Symbol.exists_ofText_eq_append_trim`);
      they are gaps of their own, or tokens less  (`Token.exists_gaps_around_trim`);
      a gap is no operand at the ends             (`Token.Written.append_gaps`);
      they are laid out as they are               (`Slot.layout_append_ofPlain`);
      they are no part of a slot                  (`Slot.fill_append_blanks`).

  The last step takes them.  So the expression is the same whether the terms are trimmed first
  or not (`Request.expression_trim`), and this for all terms: those that spell slots of their
  own, and those that have no expression, too.
-/
import PlainSearch.Proofs.Request.Clause
import PlainSearch.Proofs.Request.Proximity

set_option autoImplicit false

namespace PlainSearch

/-! ## Operators -/

namespace Token

variable {ts us back front : List Token}

theorem proximityAt?_eq_none_iff : proximityAt? ts = none ↔ ¬ OperatorAt ts 0 := by
  constructor
  · intro hnone hop
    exact hop.proximityAt?_ne_none hnone
  · intro hnot
    rw [Option.eq_none_iff_forall_ne_some]
    intro op hsome
    obtain ⟨a, w, n, b, g, g', g'', rest, rfl, hnear, hdigits, -⟩ := proximityAt?_eq_some hsome
    exact hnot ⟨rfl, rfl, hnear, rfl, hdigits, rfl, rfl⟩

/-- What is written follows from the tokens. -/
theorem Written.unique {vs : List Token} (h : Written ts us) (h' : Written ts vs) : us = vs := by
  have hsome {a w n b : List Symbol} {g g' g'' : Text} {rest : List Token}
      (hnear : isNear w = true) (hdigits : n.all isDigitSymbol = true) :
      proximityAt? (.word a :: .gap g :: .word w :: .gap g' :: .word n :: .gap g'' :: .word b
        :: rest) ≠ none := by
    rw [ne_eq, proximityAt?_eq_none_iff, not_not]
    exact ⟨rfl, rfl, hnear, rfl, hdigits, rfl, rfl⟩
  induction h generalizing vs with
  | nil =>
    cases h'
    rfl
  | keep hnone _ ih =>
    cases h' with
    | keep _ hrest => rw [ih hrest]
    | near hnear hdigits _ => exact absurd hnone (hsome hnear hdigits)
  | near hnear hdigits _ ih =>
    cases h' with
    | keep hnone _ => exact absurd hnone (hsome hnear hdigits)
    | near _ _ hrest => rw [ih hrest]

/-- Gaps in front are kept. -/
theorem Written.gaps_append (h : Written ts us) (hfront : ∀ t ∈ front, t.isGap = true) :
    Written (front ++ ts) (front ++ us) := by
  induction front with
  | nil => exact h
  | cons t front ih =>
    have hnone : proximityAt? (t :: (front ++ ts)) = none := by
      rw [proximityAt?_eq_none_iff]
      intro hop
      have hgap : (some t).any isGap = true := hfront t List.mem_cons_self
      exact not_word_of_gap hgap hop.left
    exact .keep hnone (ih fun u hu => hfront u (List.mem_cons_of_mem t hu))

/-- Gaps behind are kept. -/
theorem Written.append_gaps (h : Written ts us) (hback : ∀ t ∈ back, t.isGap = true) :
    Written (ts ++ back) (us ++ back) := by
  induction h with
  | nil =>
    have hgaps := Written.nil.gaps_append hback
    rwa [List.append_nil] at hgaps
  | @keep t ts us hnone _ ih =>
    have hnone' : proximityAt? (t :: ts ++ back) = none := by
      rw [proximityAt?_eq_none_iff] at hnone ⊢
      rwa [operatorAt_append_gaps_iff hback]
    exact .keep hnone' ih
  | near hnear hdigits _ ih =>
    rw [List.append_assoc]
    exact .near hnear hdigits ih

theorem map_capitalize_gaps (h : ∀ t ∈ ts, t.isGap = true) : ts.map capitalize = ts := by
  induction ts with
  | nil => rfl
  | cons t ts ih =>
    have ht : capitalize t = t := by
      cases t with
      | gap cs => rfl
      | word ss => cases h _ List.mem_cons_self
      | mark c => rfl
    rw [List.map_cons, ht, ih fun u hu => h u (List.mem_cons_of_mem t hu)]

/-- Operators are written between gaps as they are without them. -/
theorem writeOperators_gaps (hfront : ∀ t ∈ front, t.isGap = true)
    (hback : ∀ t ∈ back, t.isGap = true) :
    writeOperators (front ++ ts ++ back) = front ++ writeOperators ts ++ back := by
  unfold writeOperators
  rw [List.map_append, List.map_append, map_capitalize_gaps hfront, map_capitalize_gaps hback]
  have hwritten := written_writeProximity (ts.map capitalize)
  exact (written_writeProximity _).unique ((hwritten.gaps_append hfront).append_gaps hback)

end Token

/-! ## Slots -/

namespace Slot

variable {g g' t ds : Text} {phrases : List Text}

theorem layout_ofPlain_append (g : Text) (n : Nat) (ss : List Symbol) :
    layout n (Symbol.ofPlain g ++ ss) = g ++ layout n ss := by
  induction g with
  | nil => rfl
  | cons c g ih => exact congrArg (c :: ·) ih

theorem layout_append_ofPlain (g : Text) (n : Nat) (ss : List Symbol) :
    layout n (ss ++ Symbol.ofPlain g) = layout n ss ++ g := by
  induction ss generalizing n with
  | nil =>
    have hplain := layout_ofPlain_append g n []
    rwa [List.append_nil, layout, List.append_nil] at hplain
  | cons s ss ih =>
    cases s with
    | char c => exact congrArg (c :: ·) (ih n)
    | phrase b =>
      rw [List.cons_append, layout, layout, ih, List.append_assoc]

/-- A slot stands in front of a text. -/
theorem digits?_eq_some_iff :
    digits? t = some ds ↔ ∃ r, t = front ++ (ds ++ (back ++ r)) ∧ Text.IsDigits ds := by
  constructor
  · intro h
    unfold digits? at h
    split at h
    · cases h
    · next r hr =>
      simp only at h
      split at h
      · cases h
      · next hne =>
        obtain ⟨s, hs, rfl⟩ := Option.map_eq_some_iff.1 h
        refine ⟨s, ?_, hne, List.all_eq_true.1 List.all_takeWhile⟩
        rw [← Text.stripPrefix?_eq_some_iff.1 hs, List.takeWhile_append_dropWhile,
          Text.stripPrefix?_eq_some_iff.1 hr]
  · rintro ⟨r, rfl, hne, hdigits⟩
    have hfront :
        Text.stripPrefix? front (front ++ (ds ++ (back ++ r))) = some (ds ++ (back ++ r)) :=
      Text.stripPrefix?_eq_some_iff.2 rfl
    have hend : Text.stripPrefix? back (back ++ r) = some r := Text.stripPrefix?_eq_some_iff.2 rfl
    have hstop : ∀ c ∈ (back ++ r).head?, Text.isDigit c = false := by
      intro c hc
      cases hc
      decide
    simp only [digits?, hfront, Text.takeWhile_run hdigits hstop, Text.dropWhile_run hdigits hstop,
      hend, if_neg hne, Option.map_some]

theorem isBlank_of_mem_slot (hds : Text.IsDigits ds) :
    ∀ c ∈ front ++ (ds ++ back), Text.isBlank c = false := by
  have hall : ((front ++ back).all fun c => !Text.isBlank c) = true := by decide
  have hword : ∀ c ∈ front ++ back, Text.isBlank c = false := by
    simpa only [List.all_eq_true, Bool.not_eq_true'] using hall
  intro c hc
  rcases List.mem_append.1 hc with hc | hc
  · exact hword c (List.mem_append_left _ hc)
  · rcases List.mem_append.1 hc with hc | hc
    · exact Text.isBlank_of_isDigit (hds.2 c hc)
    · exact hword c (List.mem_append_right _ hc)

/-- No slot begins at a blank. -/
theorem digits?_blank {c : Char} (hc : Text.isBlank c = true) : digits? (c :: t) = none := by
  rw [Option.eq_none_iff_forall_ne_some]
  intro ds hds
  obtain ⟨r, hr, hdigits⟩ := digits?_eq_some_iff.1 hds
  rw [front_eq] at hr
  rw [(List.cons.inj hr).1] at hc
  exact absurd hc (by decide)

/-- No slot reaches into blanks behind a text. -/
theorem digits?_append_blanks (hg : ∀ c ∈ g, Text.isBlank c = true) :
    digits? (t ++ g) = digits? t := by
  rw [Option.ext_iff]
  intro ds
  rw [digits?_eq_some_iff, digits?_eq_some_iff]
  constructor
  · rintro ⟨r, hr, hdigits⟩
    have hslot : t ++ g = front ++ (ds ++ back) ++ r := by
      rw [hr, List.append_assoc, List.append_assoc]
    rcases List.append_eq_append_iff.1 hslot with ⟨x, hx, hgx⟩ | ⟨x, hx, -⟩
    · cases x with
      | nil =>
        rw [List.append_nil] at hx
        exact ⟨[], by rw [List.append_nil, hx], hdigits⟩
      | cons c x =>
        -- otherwise a blank would be a part of the slot
        have hblank := isBlank_of_mem_slot hdigits c
          (hx ▸ List.mem_append_right t List.mem_cons_self)
        rw [hg c (hgx ▸ List.mem_append_left r List.mem_cons_self)] at hblank
        cases hblank
    · exact ⟨x, by rw [hx, List.append_assoc, List.append_assoc], hdigits⟩
  · rintro ⟨r, rfl, hdigits⟩
    exact ⟨r ++ g, by simp only [List.append_assoc], hdigits⟩

/-- Blanks in front of a text are no slots. -/
theorem fill_blanks_append (hg : ∀ c ∈ g, Text.isBlank c = true) :
    fill phrases 0 (g ++ t) = (fill phrases 0 t).map (g ++ ·) := by
  induction g with
  | nil => cases h : fill phrases 0 t <;> simp [h, Except.map]
  | cons c g ih =>
    rw [List.cons_append, fill, digits?_blank (hg c List.mem_cons_self)]
    simp only
    rw [ih fun a ha => hg a (List.mem_cons_of_mem c ha)]
    cases fill phrases 0 t <;> rfl

/-- Blanks behind a text are no slots, nor parts of one. -/
theorem fill_append_blanks {skip : Nat} (hg : ∀ c ∈ g, Text.isBlank c = true)
    (hskip : skip ≤ t.length) :
    fill phrases skip (t ++ g) = (fill phrases skip t).map (· ++ g) := by
  induction t generalizing skip with
  | nil =>
    obtain rfl := Nat.le_zero.1 hskip
    have hblanks : fill phrases 0 (g ++ []) = (fill phrases 0 []).map (g ++ ·) :=
      fill_blanks_append hg
    rw [List.append_nil] at hblanks
    rw [List.nil_append, hblanks]
    simp [fill, Except.map]
  | cons c t ih =>
    cases skip with
    | succ k => exact ih (Nat.le_of_succ_le_succ hskip)
    | zero =>
      rw [List.cons_append, fill, fill, ← List.cons_append, digits?_append_blanks hg]
      cases hds : digits? (c :: t) with
      | none =>
        simp only
        rw [ih (Nat.zero_le _)]
        cases fill phrases 0 t <;> rfl
      | some ds =>
        obtain ⟨r, hr, -⟩ := digits?_eq_some_iff.1 hds
        have hlength := congrArg List.length hr
        simp only [List.length_cons, List.length_append] at hlength
        simp only
        rw [ih (by omega)]
        cases filling phrases ds with
        | error e => rfl
        | ok w =>
          cases fill phrases (front.length + ds.length + back.length - 1) t with
          | error e => rfl
          | ok u => simp [Except.map]

end Slot

/-! ## Expressions -/

namespace Request

/-- The symbols of an expression, with the blanks that the terms have at their ends. -/
theorem exists_expressionSymbols_eq (ts : Text) :
    ∃ g g', expressionSymbols ts
        = Symbol.ofPlain g ++ expressionSymbols (Text.trim ts) ++ Symbol.ofPlain g' ∧
      (∀ c ∈ g, Text.isBlank c = true) ∧ ∀ c ∈ g', Text.isBlank c = true := by
  have hwell : Token.WellFormed (Token.ofText ts) := Token.wellFormed_ofSymbols _
  have hsymbols : Token.symbolsOf (Token.ofText ts) = Symbol.ofText ts :=
    Token.symbolsOf_ofSymbols _
  obtain ⟨front, back, htokens, hgaps⟩ :=
    Token.exists_gaps_around_trim hwell (hsymbols ▸ Symbol.isReading_ofText ts)
  rw [hsymbols, Symbol.textOf_ofText] at htokens
  have hfront : ∀ t ∈ front, t.isGap = true := fun t ht => hgaps t (List.mem_append_left _ ht)
  have hback : ∀ t ∈ back, t.isGap = true := fun t ht => hgaps t (List.mem_append_right _ ht)
  have hproper : ∀ t ∈ front ++ back, t.IsProper := by
    intro t ht
    refine hwell.proper t ?_
    rw [htokens]
    rcases List.mem_append.1 ht with ht | ht <;> simp [ht]
  have hblank {us : List Token} (hus : us ⊆ front ++ back) :=
    Token.isBlank_of_mem_textOf_gaps (fun t ht => hproper t (hus ht)) fun t ht => hgaps t (hus ht)
  have hleft := hblank (List.subset_append_left front back)
  have hright := hblank (List.subset_append_right front back)
  refine ⟨_, _, ?_, hleft, hright⟩
  rw [Symbol.ofPlain_textOf (Symbol.not_mem_quote_of_isBlank hleft),
    Symbol.ofPlain_textOf (Symbol.not_mem_quote_of_isBlank hright)]
  change Token.symbolsOf (Token.writeOperators (Token.ofText ts)) = _
  rw [htokens, Token.writeOperators_gaps hfront hback, Token.symbolsOf_append,
    Token.symbolsOf_append]
  rfl

/-- Terms have the expression that they have when they are trimmed, or both have none. -/
theorem expression_trim (ts : Text) : expression (Text.trim ts) = expression ts := by
  obtain ⟨g, g', hsymbols, hg, hg'⟩ := exists_expressionSymbols_eq ts
  have hphrases : Symbol.phrases (Symbol.ofText ts)
      = Symbol.phrases (Symbol.ofText (Text.trim ts)) := by
    rw [← Symbol.texts_eq_phrases, ← Symbol.texts_eq_phrases, Symbol.texts_trim]
  unfold expression
  simp only
  rw [hsymbols, hphrases, Slot.layout_append_ofPlain, Slot.layout_ofPlain_append,
    Slot.fill_append_blanks hg' (Nat.zero_le _), Slot.fill_blanks_append hg]
  cases Slot.fill (Symbol.phrases (Symbol.ofText (Text.trim ts))) 0
      (Slot.layout 0 (expressionSymbols (Text.trim ts))) with
  | error e => rfl
  | ok w => exact congrArg Except.ok (Text.trimBy_append_append hg hg' w).symm

/-- An expression has no blanks at its ends. -/
theorem isTrimmed_of_expression {ts e : Text} (h : expression ts = .ok e) :
    Text.IsTrimmed Text.isBlank e := by
  unfold expression at h
  simp only at h
  cases hfill : Slot.fill (Symbol.phrases (Symbol.ofText ts)) 0
      (Slot.layout 0 (expressionSymbols ts)) with
  | error f =>
    rw [hfill] at h
    cases h
  | ok w =>
    rw [hfill] at h
    cases h
    exact Text.isTrimmed_trimBy Text.isBlank w

end Request
end PlainSearch
