/-
  Proofs/Request/Expression.lean --- phrases outlast the writing of an expression.

  WHAT THIS FILE IS FOR.  Between search terms and their expression, phrases go out
  to numbered slots and come back.  Here the three steps are put together:

      the writing of operators respells characters outside of phrases
      (`Proofs/Request/Operator.lean`);

      the filling of slots puts every phrase back, unless the terms spell the word
      that marks slots (`Proofs/Request/Slot.lean`);

      the trimming takes blanks (`Symbol.texts_trim`).

  THE WORD THAT MARKS SLOTS.  It is in capitals, and requests are read in lower
  case, so no request can spell it (`occursIn_mark_eq_false_of_normalize`).  The
  writing of operators brings capitals in, but no word as long.
-/
import PlainSearch.Proofs.Request.Operator
import PlainSearch.Proofs.Request.Slot
import PlainSearch.Proofs.Text.Trim
import PlainSearch.Request.Expression
import PlainSearch.Request.Target

set_option autoImplicit false

namespace PlainSearch.Request

/-! ## What the writing of operators keeps -/

variable (terms : Text)

/-- The symbols of an expression are those of the terms, respelled twice. -/
theorem respelled_expressionSymbols :
    ∃ ss, Symbol.Respelled (Symbol.ofText terms) ss ∧
      Symbol.Respelled ss (expressionSymbols terms) := by
  have hts := Token.wellFormed_ofSymbols (Symbol.ofText terms)
  obtain ⟨hfirst, hsecond⟩ := Token.respelled_writeOperators hts
  rw [Token.symbolsOf_ofSymbols] at hfirst
  exact ⟨_, hfirst, hsecond⟩

theorem isReading_expressionSymbols : Symbol.IsReading (expressionSymbols terms) := by
  obtain ⟨ss, hfirst, hsecond⟩ := respelled_expressionSymbols terms
  exact hsecond.isReading (hfirst.isReading (Symbol.isReading_ofText terms))

theorem phrases_expressionSymbols :
    Symbol.phrases (expressionSymbols terms) = Symbol.phrases (Symbol.ofText terms) := by
  obtain ⟨ss, hfirst, hsecond⟩ := respelled_expressionSymbols terms
  rw [hsecond.phrases_eq, hfirst.phrases_eq]

theorem count_quote_expressionSymbols :
    (Symbol.textOf (expressionSymbols terms)).count '"' = terms.count '"' := by
  obtain ⟨ss, hfirst, hsecond⟩ := respelled_expressionSymbols terms
  rw [hsecond.count_quote_eq, hfirst.count_quote_eq, Symbol.textOf_ofText]

/-- The writing of operators changes the terms in blanks, slashes and letter case only. -/
theorem gist_expressionSymbols :
    Text.gist (Symbol.textOf (expressionSymbols terms)) = Text.gist terms := by
  obtain ⟨ss, hfirst, hsecond⟩ := respelled_expressionSymbols terms
  rw [hsecond.gist_eq, hfirst.gist_eq, Symbol.textOf_ofText]

/-! ## The word that marks slots -/

variable {terms}

/-- A word that the symbols of an expression spell, and that is longer than any operator, is
spelled by the terms. -/
theorem isInfix_of_isInfix_expressionSymbols {w : Text} (hlong : 4 < w.length)
    (hword : w.all Text.isWordChar = true)
    (h : Symbol.ofPlain w <:+: expressionSymbols terms) : w <:+: terms := by
  have hts := Token.wellFormed_ofSymbols (Symbol.ofText terms)
  have hlength : (Symbol.ofPlain w).length = w.length := by simp [Symbol.ofPlain]
  have hne : Symbol.ofPlain w ≠ [] := by
    intro hnil
    rw [hnil, List.length_nil] at hlength
    omega
  have hwordlike : ∀ s ∈ Symbol.ofPlain w, s.isWordlike = true := by
    intro s hs
    simp only [Symbol.ofPlain, List.mem_map] at hs
    obtain ⟨c, hc, rfl⟩ := hs
    exact List.all_eq_true.1 hword c hc
  obtain ⟨ss, hmem, hin⟩ :=
    Token.exists_word_of_isInfix (Token.wellFormed_writeOperators hts) hne hwordlike h
  rcases Token.mem_words_writeOperators hmem with hmem | hshort
  · have hsymbols : ss <:+: Symbol.ofText terms := by
      rw [← Token.symbolsOf_ofSymbols (Symbol.ofText terms)]
      exact Token.symbols_isInfix_of_mem hmem
    obtain ⟨xs, ys, hxy⟩ := hin.trans hsymbols
    refine ⟨Symbol.textOf xs, Symbol.textOf ys, ?_⟩
    have htext := congrArg Symbol.textOf hxy
    rwa [Symbol.textOf_append, Symbol.textOf_append, Symbol.textOf_ofPlain,
      Symbol.textOf_ofText] at htext
  · have := hin.length_le
    omega

/-- No piece of a request spells the word that marks slots. -/
theorem occursIn_mark_eq_false_of_normalize {raw piece : Text}
    (h : piece <:+: normalize raw) : Text.occursIn Slot.mark piece = false := by
  rw [Text.occursIn_eq_false_iff]
  intro hmark
  have hmem : 'P' ∈ normalize raw := (hmark.trans h).subset (by decide)
  have hcapital : Text.isAsciiCapital 'P' = false := Text.isAsciiCapital_of_mem_lowerAfter hmem
  exact absurd hcapital (by decide)

/-! ## Expressions -/

/-- An expression is the trimmed text of its symbols, unless there are more phrases than can be
numbered. -/
theorem expression_eq (hfree : Text.occursIn Slot.mark terms = false) :
    expression terms =
      if (Phrase.texts terms).length ≤ Slot.capacity then
        .ok (Text.trim (Symbol.textOf (expressionSymbols terms)))
      else .error (.longNumeral (numeralLimit + 1)) := by
  have hmark : ¬ Symbol.ofPlain Slot.mark <:+: expressionSymbols terms := by
    intro h
    apply Text.occursIn_eq_false_iff.1 hfree
    exact isInfix_of_isInfix_expressionSymbols (by decide) (by decide) h
  have hphrases : (Symbol.phrases (Symbol.ofText terms)).drop 0
      = Symbol.phrases (expressionSymbols terms) := (phrases_expressionSymbols terms).symm
  have hfill := Slot.fill_layout hmark hphrases (Nat.zero_le Slot.capacity)
  rw [Nat.zero_add, phrases_expressionSymbols] at hfill
  rw [Symbol.texts_eq_phrases, expression, hfill]
  split <;> rfl

/-- There is no expression only for more phrases than any text has that fits into a machine. -/
theorem expression_eq_or (hfree : Text.occursIn Slot.mark terms = false) :
    expression terms = .ok (Text.trim (Symbol.textOf (expressionSymbols terms))) ∨
      (Slot.capacity < (Phrase.texts terms).length ∧
        expression terms = .error (.longNumeral (numeralLimit + 1))) := by
  rw [expression_eq hfree]
  by_cases hle : (Phrase.texts terms).length ≤ Slot.capacity
  · exact .inl (if_pos hle)
  · exact .inr ⟨Nat.not_le.1 hle, if_neg hle⟩

/-- What the trimmed text of an expression's symbols holds is what the terms hold. -/
theorem texts_textOf_expressionSymbols (terms : Text) :
    Phrase.texts (Text.trim (Symbol.textOf (expressionSymbols terms))) = Phrase.texts terms := by
  rw [Symbol.texts_trim, Symbol.texts_eq_phrases, isReading_expressionSymbols,
    phrases_expressionSymbols, Symbol.texts_eq_phrases]

/-- No phrase is lost, doubled, moved or changed on the way from terms to their expression, for
all terms that do not spell the word that marks slots; and no piece of a request spells it.  There
is no expression only for more phrases than any text has that fits into a machine. -/
theorem texts_expression :
    (∀ terms : Text, Text.occursIn Slot.mark terms = false →
      (∃ e, expression terms = .ok e ∧ Phrase.texts e = Phrase.texts terms) ∨
        (Slot.capacity < (Phrase.texts terms).length ∧
          expression terms = .error (.longNumeral (numeralLimit + 1)))) ∧
    (∀ raw piece : Text, piece <:+: normalize raw → Text.occursIn Slot.mark piece = false) := by
  refine ⟨?_, fun raw piece h => occursIn_mark_eq_false_of_normalize h⟩
  intro terms hfree
  rw [expression_eq hfree]
  by_cases hle : (Phrase.texts terms).length ≤ Slot.capacity
  · left
    refine ⟨_, if_pos hle, ?_⟩
    exact texts_textOf_expressionSymbols terms
  · right
    exact ⟨Nat.not_le.1 hle, if_neg hle⟩

/-- A request with phrases that touch letters, operators, another phrase, the spelling of a slot and
quotes without a partner. -/
theorem texts_expression_crowded :
    ∃ e, expression (normalize "X_\"A and b\"0\"c\" near 5 \"\"d\"__PHRASE0__ or \"e".toList)
        = .ok e ∧
      Phrase.texts e = ["\"a and b\"".toList, "\"c\"".toList, "\"d\"".toList] := by
  have hfree := texts_expression.2
    "X_\"A and b\"0\"c\" near 5 \"\"d\"__PHRASE0__ or \"e".toList _ (List.infix_refl _)
  rcases texts_expression.1 _ hfree with ⟨e, he, htexts⟩ | ⟨hmany, -⟩
  · exact ⟨e, he, htexts.trans (by decide)⟩
  · exact absurd hmany (by decide +kernel)

/-! ## All other characters -/

/-- Between terms and their expression no character is lost, invented or moved, but for blanks and
slashes, and none changes, but for letter case; and the expression has no blank at either end. -/
theorem gist_expression {terms : Text} (hfree : Text.occursIn Slot.mark terms = false) :
    (∃ e, expression terms = .ok e ∧ Text.gist e = Text.gist terms ∧
      Text.IsTrimmed Text.isBlank e) ∨
    (Slot.capacity < (Phrase.texts terms).length ∧
      expression terms = .error (.longNumeral (numeralLimit + 1))) := by
  refine (expression_eq_or hfree).imp_left fun he => ⟨_, he, ?_, ?_⟩
  · rw [Text.gist_trim, gist_expressionSymbols]
  · exact Text.isTrimmed_trimBy Text.isBlank _

/-- Operators of both kinds, a slash of the terms' own, and white space all around. -/
theorem gist_expression_operators :
    Text.occursIn Slot.mark " a  near\t2 \"b  c\" and/or d\n".toList = false ∧
      expression " a  near\t2 \"b  c\" and/or d\n".toList
        = .ok "a NEAR/2 \"b  c\" AND/OR d".toList ∧
      Text.gist "a NEAR/2 \"b  c\" AND/OR d".toList = "ANEAR2\"BC\"ANDORD".toList := by
  have hexpression : expression " a  near\t2 \"b  c\" and/or d\n".toList
      = .ok "a NEAR/2 \"b  c\" AND/OR d".toList := by rfl
  have hfree : Text.occursIn Slot.mark " a  near\t2 \"b  c\" and/or d\n".toList = false := by decide
  refine ⟨hfree, hexpression, ?_⟩
  rcases gist_expression hfree with ⟨e, he, hgist, -⟩ | ⟨hmany, -⟩
  · cases hexpression.symm.trans he
    exact hgist.trans (by decide)
  · exact absurd hmany (by decide +kernel)

end PlainSearch.Request
