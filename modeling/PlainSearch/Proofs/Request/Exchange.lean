/-
  Proofs/Request/Exchange.lean --- other phrases in the same places.

  WHAT THIS FILE IS FOR.  What an expression makes of its terms does not depend on what stands
  inside the phrases.  Put other phrases in the places of those that are there, and they
  stand in the same places of the expression, which is otherwise the same:

      cats and "big dog"near 2 x         cats AND "big dog"near 2 x
      cats and "a near 2 or"near 2 x     cats AND "a near 2 or"near 2 x

  Terms that differ in their phrases only are those with the same text between the phrases
  (`Phrase.between`), so the result is about any two of these
  (`Request.expression_of_between_eq`).  There is such a text for any choice of as many
  phrases (`Phrase.between_weave`).

  HOLLOW SYMBOLS.  What two such terms have in common is what is left of their symbols when
  every phrase is emptied (`Symbol.between_eq_iff`).  Each step on the way to an expression can
  be taken before the emptying or after it:

      reading as tokens         `Token.ofSymbols_map_hollow`
      spelling connectives      `Token.capitalize_hollow`
      proximity operators       `Token.writeProximity_map_hollow`
      trimming                  `Symbol.map_hollow_ofText_trim`

  The numbered slots have no part in this: they are gone once an expression is the text of its
  symbols (`Request.expression_eq`).
-/
import PlainSearch.Proofs.Request.Expression

set_option autoImplicit false

namespace PlainSearch

/-! ## The text between phrases -/

/-- The texts of two lists in turn, beginning with the first list. -/
def Text.weave : List Text → List Text → Text
  | [], _ => []
  | g :: _, [] => g
  | g :: gs, p :: ps => g ++ p ++ weave gs ps

namespace Symbol

/-- The texts between the phrases among symbols: before the first, between any two neighbours, and
behind the last. -/
def between : List Symbol → List Text
  | [] => [[]]
  | .phrase _ :: ss => [] :: between ss
  | .char c :: ss => (between ss).modifyHead (c :: ·)

/-- A symbol with nothing inside, if it is a phrase. -/
def hollow : Symbol → Symbol
  | .char c => .char c
  | .phrase _ => .phrase []

/-- Hollow phrases with the given texts between them. -/
def around : List Text → List Symbol
  | [] => []
  | [g] => ofPlain g
  | g :: gs => ofPlain g ++ .phrase [] :: around gs

variable {ss ss' : List Symbol}

theorem exists_between_eq_cons (ss : List Symbol) : ∃ g gs, between ss = g :: gs := by
  induction ss with
  | nil => exact ⟨[], [], rfl⟩
  | cons s ss ih =>
    cases s with
    | phrase b => exact ⟨[], between ss, rfl⟩
    | char c =>
      obtain ⟨g, gs, h⟩ := ih
      exact ⟨c :: g, gs, by rw [between, h]; rfl⟩

theorem length_between (ss : List Symbol) : (between ss).length = (phrases ss).length + 1 := by
  induction ss with
  | nil => rfl
  | cons s ss ih =>
    cases s with
    | phrase b =>
      rw [between, List.length_cons, ih]
      rfl
    | char c =>
      rw [between, List.length_modifyHead, ih]
      rfl

/-- A text is what stands between its phrases, and its phrases, in turn. -/
theorem weave_between (ss : List Symbol) : Text.weave (between ss) (phrases ss) = textOf ss := by
  induction ss with
  | nil => rfl
  | cons s ss ih =>
    cases s with
    | phrase b =>
      have hphrases : phrases (.phrase b :: ss) = text (.phrase b) :: phrases ss := rfl
      rw [between, hphrases, Text.weave, ih, List.nil_append, textOf_cons]
    | char c =>
      have hphrases : phrases (.char c :: ss) = phrases ss := rfl
      obtain ⟨g, gs, hbetween⟩ := exists_between_eq_cons ss
      rw [between, hphrases, textOf_cons, ← ih, hbetween]
      cases phrases ss <;> rfl

theorem around_between (ss : List Symbol) : around (between ss) = ss.map hollow := by
  induction ss with
  | nil => rfl
  | cons s ss ih =>
    obtain ⟨g, gs, hbetween⟩ := exists_between_eq_cons ss
    rw [hbetween] at ih
    cases s with
    | phrase b =>
      rw [between, hbetween, List.map_cons, ← ih]
      rfl
    | char c =>
      rw [between, hbetween, List.map_cons, ← ih]
      cases gs <;> rfl

theorem between_map_hollow (ss : List Symbol) : between (ss.map hollow) = between ss := by
  induction ss with
  | nil => rfl
  | cons s ss ih =>
    cases s with
    | phrase b => exact congrArg ([] :: ·) ih
    | char c => exact congrArg (List.modifyHead (c :: ·)) ih

/-- The texts between phrases are what is left of symbols when every phrase is emptied. -/
theorem between_eq_iff : between ss = between ss' ↔ ss.map hollow = ss'.map hollow := by
  constructor
  · intro h
    rw [← around_between, ← around_between, h]
  · intro h
    rw [← between_map_hollow, ← between_map_hollow ss', h]

end Symbol

namespace Phrase

/-- The texts between the phrases of a text. -/
def between (t : Text) : List Text := Symbol.between (Symbol.ofText t)

theorem length_between (t : Text) : (between t).length = (texts t).length + 1 := by
  rw [between, Symbol.length_between, Symbol.texts_eq_phrases]

theorem weave_between_texts (t : Text) : Text.weave (between t) (texts t) = t := by
  rw [between, Symbol.texts_eq_phrases, Symbol.weave_between, Symbol.textOf_ofText]

end Phrase

/-! ## Phrases put in the places of others -/

namespace Symbol

variable {ss ss' : List Symbol}

theorem map_hollow_ofPlain (t : Text) : (ofPlain t).map hollow = ofPlain t := by
  rw [ofPlain, List.map_map]
  rfl

theorem map_hollow_eq_ofPlain_iff {t : Text} : ss.map hollow = ofPlain t ↔ ss = ofPlain t := by
  constructor
  · intro h
    induction ss generalizing t with
    | nil => exact h
    | cons s ss ih =>
      cases t with
      | nil => cases h
      | cons c t =>
        obtain ⟨hs, hss⟩ := List.cons.inj h
        cases s with
        | char a =>
          cases hs
          rw [ih hss]
          rfl
        | phrase b => cases hs
  · rintro rfl
    exact map_hollow_ofPlain t

/-- Whether a text begins with a quote, and whether it has one at all, does not depend on what
stands inside its phrases. -/
theorem quote_iff_of_map_hollow_eq (h : ss.map hollow = ss'.map hollow) :
    ((textOf ss).head? = some '"' ↔ (textOf ss').head? = some '"') ∧
      ('"' ∈ textOf ss ↔ '"' ∈ textOf ss') := by
  induction ss generalizing ss' with
  | nil =>
    rw [List.map_nil, eq_comm, List.map_eq_nil_iff] at h
    rw [h]
    exact ⟨Iff.rfl, Iff.rfl⟩
  | cons s ss ih =>
    obtain ⟨s', ss', rfl, hs, hss⟩ := List.map_eq_cons_iff.1 h.symm
    obtain ⟨-, hmem⟩ := ih hss.symm
    cases s with
    | phrase b =>
      cases s' with
      | phrase b' => simp [text]
      | char c => cases hs
    | char c =>
      cases s' with
      | phrase b' => cases hs
      | char c' =>
        cases hs
        simp [text, hmem]

/-- Other texts can stand inside the phrases of a reading. -/
theorem IsReading.exists_exchange (h : IsReading ss) {bs : List Text}
    (hbs : ∀ b ∈ bs, b ≠ [] ∧ '"' ∉ b) (hlength : bs.length = (phrases ss).length) :
    ∃ ss', IsReading ss' ∧ ss'.map hollow = ss.map hollow ∧
      phrases ss' = bs.map fun b => text (.phrase b) := by
  induction ss generalizing bs with
  | nil =>
    rw [List.length_eq_zero_iff.1 hlength]
    exact ⟨[], isReading_nil, rfl, rfl⟩
  | cons s ss ih =>
    cases s with
    | phrase b =>
      obtain ⟨-, hss⟩ := isReading_cons_phrase_iff.1 h
      obtain ⟨b', bs, rfl⟩ := List.exists_cons_of_length_eq_add_one hlength
      obtain ⟨ss', hread, hhollow, hphrases⟩ :=
        ih hss (fun a ha => hbs a (List.mem_cons_of_mem b' ha)) (Nat.succ.inj hlength)
      refine ⟨.phrase b' :: ss', ?_, ?_, ?_⟩
      · exact isReading_cons_phrase_iff.2 ⟨hbs b' List.mem_cons_self, hread⟩
      · rw [List.map_cons, List.map_cons, hhollow]
        rfl
      · rw [List.map_cons, ← hphrases]
        rfl
    | char c =>
      obtain ⟨hat, hss⟩ := isReading_cons_char_iff.1 h
      obtain ⟨ss', hread, hhollow, hphrases⟩ := ih hss hbs hlength
      refine ⟨.char c :: ss', ?_, by rw [List.map_cons, List.map_cons, hhollow], hphrases⟩
      refine isReading_cons_char_iff.2 ⟨?_, hread⟩
      by_cases hc : c = '"'
      · -- a quote opens a phrase or not, by the quotes behind it
        subst hc
        obtain ⟨hhead, hmem⟩ := quote_iff_of_map_hollow_eq hhollow
        rw [Phrase.at?_quote_eq_none_iff] at hat ⊢
        rwa [hhead, hmem]
      · exact Phrase.at?_cons_of_ne _ hc

end Symbol

/-- A text with a quote on either side. -/
def Phrase.quoted (b : Text) : Text := '"' :: b ++ ['"']

/-- Any phrases can stand in the places of those of a text, as many as there are. -/
theorem Phrase.between_weave (t : Text) {bs : List Text} (hbs : ∀ b ∈ bs, b ≠ [] ∧ '"' ∉ b)
    (hlength : bs.length = (texts t).length) :
    between (Text.weave (between t) (bs.map quoted)) = between t ∧
      texts (Text.weave (between t) (bs.map quoted)) = bs.map quoted := by
  rw [Symbol.texts_eq_phrases] at hlength
  obtain ⟨ss, hread, hhollow, hphrases⟩ :=
    (Symbol.isReading_ofText t).exists_exchange hbs hlength
  have hbetween := Symbol.between_eq_iff.2 hhollow
  have htext : Text.weave (between t) (bs.map quoted) = Symbol.textOf ss := by
    rw [← Symbol.weave_between ss, hbetween, hphrases]
    rfl
  rw [htext, Symbol.texts_eq_phrases, between, hread]
  exact ⟨hbetween, hphrases⟩

/-! ## Steps that do not look inside phrases -/

namespace Token

open PlainSearch.Symbol (ofPlain)

/-- A token with all its phrases emptied. -/
def hollow : Token → Token
  | .word ss => .word (ss.map Symbol.hollow)
  | .gap cs => .gap cs
  | .mark c => .mark c

theorem hollow_eq_word_iff {t : Token} {ss : List Symbol} :
    t.hollow = .word ss ↔ ∃ us, t = .word us ∧ us.map Symbol.hollow = ss := by
  cases t <;> simp [hollow]

theorem hollow_eq_gap_iff {t : Token} {cs : Text} : t.hollow = .gap cs ↔ t = .gap cs := by
  cases t <;> simp [hollow]

theorem map_hollow_consWord (s : Symbol) (ts : List Token) :
    (consWord s ts).map hollow = consWord s.hollow (ts.map hollow) := by
  cases ts with
  | nil => rfl
  | cons t ts => cases t <;> rfl

theorem map_hollow_consBlank (c : Char) (ts : List Token) :
    (consBlank c ts).map hollow = consBlank c (ts.map hollow) := by
  cases ts with
  | nil => rfl
  | cons t ts => cases t <;> rfl

theorem map_hollow_consSymbol (s : Symbol) (ts : List Token) :
    (consSymbol s ts).map hollow = consSymbol s.hollow (ts.map hollow) := by
  cases s with
  | phrase b => exact map_hollow_consWord (.phrase b) ts
  | char c =>
    simp only [consSymbol, Symbol.hollow]
    split
    · exact map_hollow_consWord (.char c) ts
    · split
      · exact map_hollow_consBlank c ts
      · rfl

/-- Which tokens symbols are read as does not depend on what stands inside phrases. -/
theorem ofSymbols_map_hollow (ss : List Symbol) :
    ofSymbols (ss.map Symbol.hollow) = (ofSymbols ss).map hollow := by
  induction ss with
  | nil => rfl
  | cons s ss ih =>
    have hcons (s : Symbol) (ss : List Symbol) :
        ofSymbols (s :: ss) = consSymbol s (ofSymbols ss) := rfl
    rw [List.map_cons, hcons, hcons, ih, map_hollow_consSymbol]

theorem symbols_hollow (t : Token) : t.hollow.symbols = t.symbols.map Symbol.hollow := by
  cases t with
  | word ss => rfl
  | gap cs => exact (Symbol.map_hollow_ofPlain cs).symm
  | mark c => rfl

theorem symbolsOf_map_hollow (ts : List Token) :
    symbolsOf (ts.map hollow) = (symbolsOf ts).map Symbol.hollow := by
  induction ts with
  | nil => rfl
  | cons t ts ih =>
    rw [List.map_cons, symbolsOf_cons, symbolsOf_cons, List.map_append, ih, symbols_hollow]

/-- A word with a phrase in it is no connective, whatever the phrase. -/
theorem capitalize_hollow (t : Token) : t.hollow.capitalize = t.capitalize.hollow := by
  cases t with
  | gap cs => rfl
  | mark c => rfl
  | word ss =>
    simp only [hollow, capitalize, Symbol.map_hollow_eq_ofPlain_iff]
    cases connectives.find? fun p => ss = ofPlain p.1 with
    | none => rfl
    | some p => exact congrArg Token.word (Symbol.map_hollow_ofPlain p.2).symm

/-- A word with a phrase in it is not the word near, whatever the phrase. -/
theorem isNear_map_hollow (ss : List Symbol) : isNear (ss.map Symbol.hollow) = isNear ss := by
  rw [Bool.eq_iff_iff]
  constructor
  · intro h
    obtain ⟨t, ht, -, -⟩ := exists_text_of_isNear h
    rwa [ht, ← Symbol.map_hollow_eq_ofPlain_iff.1 ht] at h
  · intro h
    obtain ⟨t, rfl, -, -⟩ := exists_text_of_isNear h
    rwa [Symbol.map_hollow_ofPlain]

theorem all_isDigitSymbol_map_hollow (ss : List Symbol) :
    (ss.map Symbol.hollow).all isDigitSymbol = ss.all isDigitSymbol := by
  rw [List.all_map]
  congr 1
  funext s
  cases s <;> rfl

/-- Whether a proximity operator begins at a token does not depend on what stands inside
phrases. -/
theorem proximityAt?_map_hollow (ts : List Token) :
    proximityAt? (ts.map hollow) = (proximityAt? ts).map (List.map hollow) := by
  fun_cases proximityAt? ts with
  | case1 a g w g' n g'' b rest h =>
    simp only [List.map_cons, hollow, proximityAt?, isNear_map_hollow,
      all_isDigitSymbol_map_hollow, h]
    rfl
  | case2 a g w g' n g'' b rest h =>
    simp only [List.map_cons, hollow, proximityAt?, isNear_map_hollow,
      all_isDigitSymbol_map_hollow, h]
    rfl
  | case3 ts h =>
    change proximityAt? (ts.map hollow) = none
    rw [Option.eq_none_iff_forall_ne_some]
    intro op hop
    -- an operator among hollow tokens is made of tokens that make up one themselves
    obtain ⟨a, w, n, b, g, g', g'', rest, hts, -⟩ := proximityAt?_eq_some hop
    simp only [List.map_eq_cons_iff, hollow_eq_word_iff, hollow_eq_gap_iff] at hts
    obtain ⟨_, _, rfl, ⟨a, rfl, -⟩, _, _, rfl, rfl, _, _, rfl, ⟨w, rfl, -⟩, _, _, rfl, rfl, _, _,
      rfl, ⟨n, rfl, -⟩, _, _, rfl, rfl, _, rest, rfl, ⟨b, rfl, -⟩, -⟩ := hts
    exact h a g w g' n g'' b rest rfl

/-- The pass over the tokens goes the same way whatever stands inside phrases. -/
theorem writeProximity_map_hollow (skip : Nat) (ts : List Token) :
    writeProximity skip (ts.map hollow) = (writeProximity skip ts).map hollow := by
  induction ts generalizing skip with
  | nil => simp [writeProximity]
  | cons t ts ih =>
    cases skip with
    | succ k => exact ih k
    | zero =>
      rw [List.map_cons, writeProximity, writeProximity, ← List.map_cons, proximityAt?_map_hollow]
      cases proximityAt? (t :: ts) with
      | none => exact congrArg (t.hollow :: ·) (ih 0)
      | some op =>
        simp only [Option.map_some]
        rw [ih, List.map_append]

theorem writeOperators_map_hollow (ts : List Token) :
    writeOperators (ts.map hollow) = (writeOperators ts).map hollow := by
  have hcapital : (ts.map hollow).map capitalize = (ts.map capitalize).map hollow := by
    rw [List.map_map, List.map_map]
    exact List.map_congr_left fun t _ => capitalize_hollow t
  rw [writeOperators, hcapital, writeProximity_map_hollow]
  rfl

end Token

namespace Symbol

/-- A blank outside of phrases. -/
def isBlank : Symbol → Bool
  | .char c => Text.isBlank c
  | .phrase _ => false

theorem isBlank_hollow (s : Symbol) : s.hollow.isBlank = s.isBlank := by
  cases s <;> rfl

theorem isBlank_of_mem_ofPlain {g : Text} (hg : ∀ c ∈ g, Text.isBlank c = true) :
    ∀ s ∈ ofPlain g, s.isBlank = true := by
  intro s hs
  obtain ⟨c, hc, rfl⟩ := List.mem_map.1 hs
  exact hg c hc

/-- The symbols of a trimmed text have no blank at either end. -/
theorem isBlank_ends {t : Text} (h : Text.IsTrimmed Text.isBlank t) :
    (∀ s ∈ (ofText t).head?, s.isBlank = false) ∧ ∀ s ∈ (ofText t).getLast?, s.isBlank = false := by
  have ht := textOf_ofText t
  constructor
  · intro s hs
    obtain ⟨ss, hss⟩ := List.head?_eq_some_iff.1 hs
    cases s with
    | phrase b => rfl
    | char c =>
      apply h.head
      rw [← ht, hss]
      rfl
  · intro s hs
    obtain ⟨ss, hss⟩ := List.getLast?_eq_some_iff.1 hs
    cases s with
    | phrase b => rfl
    | char c =>
      apply h.last
      rw [← ht, hss, textOf_append]
      simp [text]

/-- Trimming takes the same symbols whatever stands inside phrases. -/
theorem map_hollow_ofText_trim (t : Text) :
    (ofText (Text.trim t)).map hollow
      = (((ofText t).map hollow).dropWhile isBlank).rdropWhile isBlank := by
  obtain ⟨g, g', ht, hg, hg'⟩ := exists_ofText_eq_append_trim t
  obtain ⟨hhead, hlast⟩ := isBlank_ends (Text.isTrimmed_trimBy Text.isBlank t)
  rw [ht, List.map_append, List.map_append, map_hollow_ofPlain, map_hollow_ofPlain,
    Text.rdropWhile_dropWhile_append_append (isBlank_of_mem_ofPlain hg)
      (isBlank_of_mem_ofPlain hg')]
  · intro s hs
    rw [List.head?_map] at hs
    obtain ⟨u, hu, rfl⟩ := Option.map_eq_some_iff.1 hs
    rw [isBlank_hollow]
    exact hhead u hu
  · intro s hs
    rw [List.getLast?_map] at hs
    obtain ⟨u, hu, rfl⟩ := Option.map_eq_some_iff.1 hs
    rw [isBlank_hollow]
    exact hlast u hu

end Symbol

/-! ## Expressions -/

namespace Request

theorem map_hollow_expressionSymbols (terms : Text) :
    (expressionSymbols terms).map Symbol.hollow
      = Token.symbolsOf (Token.writeOperators (Token.ofSymbols
          ((Symbol.ofText terms).map Symbol.hollow))) := by
  rw [Token.ofSymbols_map_hollow, Token.writeOperators_map_hollow, Token.symbolsOf_map_hollow]
  rfl

/-- The text of an expression between its phrases does not depend on the phrases. -/
theorem between_trim_expressionSymbols {s s' : Text} (h : Phrase.between s = Phrase.between s') :
    Phrase.between (Text.trim (Symbol.textOf (expressionSymbols s)))
      = Phrase.between (Text.trim (Symbol.textOf (expressionSymbols s'))) := by
  have hsymbols : (expressionSymbols s).map Symbol.hollow
      = (expressionSymbols s').map Symbol.hollow := by
    rw [map_hollow_expressionSymbols, map_hollow_expressionSymbols, Symbol.between_eq_iff.1 h]
  apply Symbol.between_eq_iff.2
  rw [Symbol.map_hollow_ofText_trim, Symbol.map_hollow_ofText_trim, isReading_expressionSymbols,
    isReading_expressionSymbols, hsymbols]

/-- Operators never look inside phrases.

  * If the text between the phrases is the same in two terms, it is the same in their expressions:
    one expression becomes the other when the phrases of the other terms are put in the places of
    its own.  Either both have an expression, or neither has, for more phrases than can be numbered.
  * Such terms are made from any others by putting quoted texts in the places of the phrases, as
    many as there are and none of them empty. -/
theorem expression_of_between_eq :
    (∀ s s' : Text, Text.occursIn Slot.mark s = false → Text.occursIn Slot.mark s' = false →
      Phrase.between s = Phrase.between s' →
      (∃ e e', expression s = .ok e ∧ expression s' = .ok e' ∧
        Phrase.between e = Phrase.between e' ∧
        Text.weave (Phrase.between e) (Phrase.texts s') = e') ∨
      (Slot.capacity < (Phrase.texts s).length ∧
        expression s = .error (.longNumeral (numeralLimit + 1)) ∧
        expression s' = .error (.longNumeral (numeralLimit + 1)))) ∧
    (∀ (t : Text) (bs : List Text), (∀ b ∈ bs, b ≠ [] ∧ '"' ∉ b) →
      bs.length = (Phrase.texts t).length →
      Phrase.between (Text.weave (Phrase.between t) (bs.map Phrase.quoted)) = Phrase.between t ∧
        Phrase.texts (Text.weave (Phrase.between t) (bs.map Phrase.quoted))
          = bs.map Phrase.quoted) := by
  refine ⟨?_, fun t _ hbs hlength => Phrase.between_weave t hbs hlength⟩
  intro s s' hfree hfree' h
  have hlength : (Phrase.texts s).length = (Phrase.texts s').length := by
    have hboth := congrArg List.length h
    rwa [Phrase.length_between, Phrase.length_between, Nat.add_right_cancel_iff] at hboth
  have hbetween := between_trim_expressionSymbols h
  rw [expression_eq hfree, expression_eq hfree', ← hlength]
  by_cases hle : (Phrase.texts s).length ≤ Slot.capacity
  · rw [if_pos hle, if_pos hle]
    refine .inl ⟨_, _, rfl, rfl, hbetween, ?_⟩
    rw [hbetween, ← texts_textOf_expressionSymbols s', Phrase.weave_between_texts]
  · rw [if_neg hle, if_neg hle]
    exact .inr ⟨Nat.not_le.1 hle, rfl, rfl⟩

/-- Phrases that are operands and that touch a word, in place of others; in the new ones stand an
operator, blanks and a connective. -/
theorem expression_of_between_eq_operands :
    Text.occursIn Slot.mark "\"a\" near 2 \"b\"and c or d".toList = false ∧
    Text.occursIn Slot.mark "\"x near 2 y\" near 2 \" or \"and c or d".toList = false ∧
    Phrase.between "\"x near 2 y\" near 2 \" or \"and c or d".toList
      = Phrase.between "\"a\" near 2 \"b\"and c or d".toList ∧
    expression "\"x near 2 y\" near 2 \" or \"and c or d".toList
      = .ok "\"x near 2 y\" NEAR/2 \" or \"and c OR d".toList := by
  obtain ⟨hexchange, hplaces⟩ := expression_of_between_eq
  have hfree : Text.occursIn Slot.mark "\"a\" near 2 \"b\"and c or d".toList = false := by decide
  have hfree' :
      Text.occursIn Slot.mark "\"x near 2 y\" near 2 \" or \"and c or d".toList = false := by decide
  have hbetween : Phrase.between "\"x near 2 y\" near 2 \" or \"and c or d".toList
      = Phrase.between "\"a\" near 2 \"b\"and c or d".toList :=
    (hplaces "\"a\" near 2 \"b\"and c or d".toList ["x near 2 y".toList, " or ".toList]
      (by decide) (by decide)).1
  have hexpression : expression "\"a\" near 2 \"b\"and c or d".toList
      = .ok "\"a\" NEAR/2 \"b\"and c OR d".toList := by rfl
  refine ⟨hfree, hfree', hbetween, ?_⟩
  rcases hexchange _ _ hfree hfree' hbetween.symm with ⟨e, e', he, he', -, hweave⟩ | ⟨hmany, -⟩
  · cases hexpression.symm.trans he
    rw [he', ← hweave]
    rfl
  · exact absurd hmany (by decide +kernel)

end Request
end PlainSearch
