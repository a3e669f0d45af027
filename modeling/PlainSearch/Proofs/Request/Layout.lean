/-
  Proofs/Request/Layout.lean --- operators may be written around phrases or around their slots.

  WHAT THIS FILE IS FOR.  `Request.expression` writes the operators among symbols, where a
  phrase is one symbol, and lays the result out with slots.  One can also begin with the slots:
  lay the search terms out as they are, and write the operators in the text that comes of
  it.  `Token.layout` is what such a text is read as:

      the same tokens, with the phrases of every word held by slots
      (`Token.ofSymbols_layout`).

  A slot is made of characters that continue a word, so it breaks no word and makes none; and
  it has an underscore, so it makes no connective, no word near and no distance.

  THE RESULT.  Either order gives the same text (`Slot.layout_writeOperators`), so the
  expression may be made in either (`Request.expression_eq_fill_writeOperators`).
-/
import PlainSearch.Proofs.Request.Margin
import PlainSearch.Request.Expression

set_option autoImplicit false

namespace PlainSearch

/-! ## Slots -/

namespace Slot

open PlainSearch.Symbol (ofPlain phrases)

/-- Slots are numbered on behind what is laid out. -/
theorem layout_append (n : Nat) (ss ss' : List Symbol) :
    layout n (ss ++ ss') = layout n ss ++ layout (n + (phrases ss).length) ss' := by
  induction ss generalizing n with
  | nil => rfl
  | cons s ss ih =>
    cases s with
    | char c => exact congrArg (c :: ·) (ih n)
    | phrase b =>
      have hcount : (phrases (.phrase b :: ss)).length = (phrases ss).length + 1 := rfl
      rw [List.cons_append, layout, layout, ih, List.append_assoc, hcount, Nat.add_right_comm,
        Nat.add_assoc]

theorem layout_ofPlain (n : Nat) (t : Text) : layout n (ofPlain t) = t := by
  have h := layout_ofPlain_append t n []
  rwa [List.append_nil, layout, List.append_nil] at h

/-- What marks a slot continues a word. -/
theorem isWordChar_of_mem_marks :
    ∀ c ∈ ['_', 'P', 'H', 'R', 'A', 'S', 'E'], Text.isWordChar c = true :=
  List.all_eq_true.1 (by decide)

theorem isWordChar_of_mem_text {n : Nat} {c : Char} (hc : c ∈ text n) :
    Text.isWordChar c = true := by
  rw [text, front_eq, mark_eq, back_eq, List.mem_append, List.mem_append] at hc
  rcases hc with (hfront | hdigit) | hback
  · refine isWordChar_of_mem_marks c ?_
    rcases List.mem_cons.1 hfront with rfl | hfront
    · exact List.mem_cons_self
    · exact hfront
  · exact Text.isWordChar_of_isDigit
      (Text.isDigit_of_isAsciiDigit (Text.isAsciiDigit_of_mem_ofNat hdigit))
  · refine isWordChar_of_mem_marks c ?_
    rcases List.mem_cons.1 hback with rfl | hback
    · exact List.mem_cons_self
    · exact List.mem_of_mem_head? (congrArg some (List.mem_singleton.1 hback).symm)

/-- Words stay words. -/
theorem isWordChar_of_mem_layout {n : Nat} {ss : List Symbol} {c : Char}
    (hss : ∀ s ∈ ss, s.isWordlike = true) (hc : c ∈ layout n ss) : Text.isWordChar c = true := by
  induction ss generalizing n with
  | nil => cases hc
  | cons s ss ih =>
    have hrest : ∀ s ∈ ss, s.isWordlike = true := fun x hx => hss x (List.mem_cons_of_mem s hx)
    cases s with
    | char a =>
      rcases List.mem_cons.1 hc with rfl | hc
      · exact hss _ List.mem_cons_self
      · exact ih hrest hc
    | phrase b =>
      rcases List.mem_append.1 hc with hslot | hc
      · exact isWordChar_of_mem_text hslot
      · exact ih hrest hc

/-- A layout without an underscore has no slots. -/
theorem eq_ofPlain_layout {n : Nat} {ss : List Symbol} (h : '_' ∉ layout n ss) :
    ss = ofPlain (layout n ss) := by
  induction ss generalizing n with
  | nil => rfl
  | cons s ss ih =>
    cases s with
    | char c =>
      have hrest : '_' ∉ layout n ss := fun hmem => h (List.mem_cons_of_mem c hmem)
      exact congrArg (Symbol.char c :: ·) (ih hrest)
    | phrase b =>
      refine absurd ?_ h
      rw [layout, text, front_eq]
      exact List.mem_cons_self

/-- What is spelled without an underscore is spelled by the symbols. -/
theorem layout_eq_iff {n : Nat} {ss : List Symbol} {t : Text} (ht : '_' ∉ t) :
    layout n ss = t ↔ ss = ofPlain t := by
  constructor
  · rintro rfl
    exact eq_ofPlain_layout ht
  · rintro rfl
    exact layout_ofPlain n t

end Slot

/-! ## Tokens -/

namespace Token

open PlainSearch.Symbol (ofPlain phrases)

/-- Tokens with slots, numbered from `n`, in the places of the phrases. -/
def layout : Nat → List Token → List Token
  | _, [] => []
  | n, .word ss :: ts =>
    .word (ofPlain (Slot.layout n ss)) :: layout (n + (phrases ss).length) ts
  | n, .gap cs :: ts => .gap cs :: layout n ts
  | n, .mark c :: ts => .mark c :: layout n ts

theorem symbolsOf_layout (n : Nat) (ts : List Token) :
    symbolsOf (layout n ts) = ofPlain (Slot.layout n (symbolsOf ts)) := by
  have happend (t t' : Text) : ofPlain (t ++ t') = ofPlain t ++ ofPlain t' := List.map_append
  induction ts generalizing n with
  | nil => rfl
  | cons t ts ih =>
    cases t with
    | word ss => rw [layout, symbolsOf_cons, symbolsOf_cons, ih, symbols, symbols,
        Slot.layout_append, happend]
    | gap cs => rw [layout, symbolsOf_cons, symbolsOf_cons, ih, symbols, Slot.layout_ofPlain_append,
        happend]
    | mark c => rw [layout, symbolsOf_cons, ih]; rfl

/-- The kind of the first token stays. -/
theorem apart_head?_layout {t t' : Token} {n : Nat} {ts : List Token}
    (hword : t'.isWord = t.isWord) (hgap : t'.isGap = t.isGap)
    (h : ∀ u ∈ ts.head?, Apart t u) : ∀ u ∈ (layout n ts).head?, Apart t' u := by
  cases ts with
  | nil => nofun
  | cons u ts =>
    have hu := h u rfl
    unfold Apart at hu ⊢
    rw [hword, hgap]
    cases u <;> rintro _ ⟨⟩ <;> exact hu

theorem wellFormed_layout {ts : List Token} (h : WellFormed ts) (n : Nat) :
    WellFormed (layout n ts) := by
  induction ts generalizing n with
  | nil => exact wellFormed_nil
  | cons t ts ih =>
    obtain ⟨ht, hhead, hrest⟩ := wellFormed_cons_iff.1 h
    cases t with
    | gap cs => exact wellFormed_cons_iff.2 ⟨ht, apart_head?_layout rfl rfl hhead, ih hrest n⟩
    | mark c => exact wellFormed_cons_iff.2 ⟨ht, apart_head?_layout rfl rfl hhead, ih hrest n⟩
    | word ss =>
      refine wellFormed_cons_iff.2 ⟨?_, apart_head?_layout rfl rfl hhead, ih hrest _⟩
      have hne : Slot.layout n ss ≠ [] := by
        intro hnil
        exact ht.1 ((Slot.layout_eq_iff (by decide)).1 hnil)
      refine isProper_ofPlain hne (List.all_eq_true.2 fun c hc => ?_)
      exact Slot.isWordChar_of_mem_layout ht.2 hc

/-- The tokens of a text with slots are those of the terms, with slots. -/
theorem ofSymbols_layout (n : Nat) (ss : List Symbol) :
    ofSymbols (ofPlain (Slot.layout n ss)) = layout n (ofSymbols ss) := by
  conv_lhs => rw [← symbolsOf_ofSymbols ss, ← symbolsOf_layout]
  exact ofSymbols_symbolsOf (wellFormed_layout (wellFormed_ofSymbols ss) n)

/-! ## Operators -/

/-- No operator is spelled with an underscore. -/
theorem not_mem_underscore_of_mem_connectives : ∀ p ∈ connectives, '_' ∉ p.1 := by decide

/-- A word with slots in it is no connective. -/
theorem map_capitalize_layout (n : Nat) (ts : List Token) :
    (layout n ts).map capitalize = layout n (ts.map capitalize) := by
  induction ts generalizing n with
  | nil => rfl
  | cons t ts ih =>
    cases t with
    | gap cs => exact congrArg (Token.gap cs :: ·) (ih n)
    | mark c => exact congrArg (Token.mark c :: ·) (ih n)
    | word ss =>
      rw [layout, List.map_cons, List.map_cons, ih]
      rcases capitalize_cases (.word ss) with hkeep | ⟨p, hp, hss, hcap⟩
      · rw [hkeep, layout]
        congr 1
        rcases capitalize_cases (.word (ofPlain (Slot.layout n ss))) with h | ⟨p, hp, hplain, -⟩
        · exact h
        · -- the layout is a connective, so the word is that connective itself
          have hspelled : Slot.layout n ss = p.1 := by
            have htexts := congrArg Symbol.textOf (Token.word.inj hplain)
            rwa [Symbol.textOf_ofPlain, Symbol.textOf_ofPlain] at htexts
          have hss : ss = ofPlain p.1 :=
            (Slot.layout_eq_iff (not_mem_underscore_of_mem_connectives p hp)).1 hspelled
          rw [hspelled, ← hss, hkeep]
      · cases hss
        rw [hcap, layout, Slot.layout_ofPlain, Slot.layout_ofPlain, Symbol.phrases_ofPlain,
          Symbol.phrases_ofPlain, hcap]

/-- A word with slots in it is not the word near. -/
theorem isNear_layout (n : Nat) (ss : List Symbol) :
    isNear (ofPlain (Slot.layout n ss)) = isNear ss := by
  rw [Bool.eq_iff_iff]
  constructor
  · intro h
    have hlower := of_decide_eq_true h
    rw [Symbol.textOf_ofPlain] at hlower
    have hunderscore : '_' ∉ Slot.layout n ss := by
      intro hmem
      have hmem' := List.mem_map_of_mem hmem (f := Text.asciiLowerChar)
      rw [hlower] at hmem'
      exact absurd hmem' (by decide)
    rwa [← Slot.eq_ofPlain_layout hunderscore] at h
  · intro h
    obtain ⟨t, rfl, -, -⟩ := exists_text_of_isNear h
    rwa [Slot.layout_ofPlain]

/-- A word with slots in it is no distance. -/
theorem all_isDigitSymbol_layout (n : Nat) (ss : List Symbol) :
    (ofPlain (Slot.layout n ss)).all isDigitSymbol = ss.all isDigitSymbol := by
  induction ss generalizing n with
  | nil => rfl
  | cons s ss ih =>
    cases s with
    | char c => exact congrArg (isDigitSymbol (.char c) && ·) (ih n)
    | phrase b =>
      rw [Slot.layout, Slot.text, Slot.front_eq]
      rfl

/-- A distance has no phrases in it. -/
theorem phrases_of_all_isDigitSymbol {ss : List Symbol} (h : ss.all isDigitSymbol = true) :
    phrases ss = [] := by
  induction ss with
  | nil => rfl
  | cons s ss ih =>
    rw [List.all_cons, Bool.and_eq_true] at h
    cases s with
    | char c => exact ih h.2
    | phrase b => cases h.1

theorem layout_eq_word_cons {n : Nat} {ts us : List Token} {x : List Symbol}
    (h : layout n ts = .word x :: us) :
    ∃ ss rest, ts = .word ss :: rest ∧ ofPlain (Slot.layout n ss) = x ∧
      layout (n + (phrases ss).length) rest = us := by
  cases ts with
  | nil => cases h
  | cons t ts =>
    cases t with
    | word ss =>
      obtain ⟨hword, hrest⟩ := List.cons.inj h
      exact ⟨ss, ts, rfl, Token.word.inj hword, hrest⟩
    | gap cs => cases h
    | mark c => cases h

theorem layout_eq_gap_cons {n : Nat} {ts us : List Token} {g : Text}
    (h : layout n ts = .gap g :: us) : ∃ rest, ts = .gap g :: rest ∧ layout n rest = us := by
  cases ts with
  | nil => cases h
  | cons t ts =>
    cases t with
    | word ss => cases h
    | gap cs =>
      obtain ⟨hgap, hrest⟩ := List.cons.inj h
      cases hgap
      exact ⟨ts, rfl, hrest⟩
    | mark c => cases h

/-- No proximity operator begins at a token with slots in it unless one does without. -/
theorem proximityAt?_layout_eq_none {ts : List Token} (h : proximityAt? ts = none) (n : Nat) :
    proximityAt? (layout n ts) = none := by
  rw [Option.eq_none_iff_forall_ne_some]
  intro op hop
  obtain ⟨a, w, d, b, g, g', g'', us, hts, hnear, hdigits, -⟩ := proximityAt?_eq_some hop
  obtain ⟨a, ts₁, rfl, -, h₁⟩ := layout_eq_word_cons hts
  obtain ⟨ts₂, rfl, h₂⟩ := layout_eq_gap_cons h₁
  obtain ⟨w, ts₃, rfl, rfl, h₃⟩ := layout_eq_word_cons h₂
  obtain ⟨ts₄, rfl, h₄⟩ := layout_eq_gap_cons h₃
  obtain ⟨d, ts₅, rfl, rfl, h₅⟩ := layout_eq_word_cons h₄
  obtain ⟨ts₆, rfl, h₆⟩ := layout_eq_gap_cons h₅
  obtain ⟨b, ts₇, rfl, -, -⟩ := layout_eq_word_cons h₆
  rw [isNear_layout] at hnear
  rw [all_isDigitSymbol_layout] at hdigits
  simp only [proximityAt?, hnear, hdigits, Bool.and_self, if_true, reduceCtorEq] at h

/-- With slots in the places of phrases the same operators are written. -/
theorem Written.layout {ts us : List Token} (h : Written ts us) (n : Nat) :
    Written (layout n ts) (layout n us) := by
  induction h generalizing n with
  | nil => exact .nil
  | @keep t ts us hnone _ ih =>
    have hnone' := proximityAt?_layout_eq_none hnone n
    cases t with
    | word ss => exact .keep hnone' (ih _)
    | gap cs => exact .keep hnone' (ih n)
    | mark c => exact .keep hnone' (ih n)
  | @near a w d b g g' g'' ts us hnear hdigits _ ih =>
    -- the slots of the left operand come before those of the right one, as they did
    have hw : phrases w = [] := by
      obtain ⟨t, rfl, -, -⟩ := exists_text_of_isNear hnear
      exact Symbol.phrases_ofPlain t
    have hd := phrases_of_all_isDigitSymbol hdigits
    simp only [proximity, Token.layout, List.cons_append, List.nil_append, hw, hd,
      Symbol.phrases_ofPlain, Slot.layout_ofPlain, List.length_nil, Nat.add_zero]
    refine .near ?_ ?_ (ih _)
    · rwa [isNear_layout]
    · rwa [all_isDigitSymbol_layout]

/-- Operators are written around slots as around phrases. -/
theorem writeOperators_layout (n : Nat) (ts : List Token) :
    writeOperators (layout n ts) = layout n (writeOperators ts) := by
  unfold writeOperators
  rw [map_capitalize_layout]
  exact (written_writeProximity _).unique ((written_writeProximity _).layout n)

end Token

/-! ## Expressions -/

/-- A text with its operators written. -/
def Text.writeOperators (t : Text) : Text :=
  Symbol.textOf (Token.symbolsOf (Token.writeOperators (Token.ofSymbols (Symbol.ofPlain t))))

/-- Search terms may be laid out before their operators are written. -/
theorem Slot.layout_writeOperators (n : Nat) (ss : List Symbol) :
    Text.writeOperators (layout n ss) =
      layout n (Token.symbolsOf (Token.writeOperators (Token.ofSymbols ss))) := by
  rw [Text.writeOperators, Token.ofSymbols_layout, Token.writeOperators_layout,
    Token.symbolsOf_layout, Symbol.textOf_ofPlain]

/-- An expression is made of the terms with slots in the places of phrases, as the operators are
written in that text, the slots are filled, and the blanks at the ends go. -/
theorem Request.expression_eq_fill_writeOperators (terms : Text) :
    expression terms =
      (Slot.fill (Symbol.phrases (Symbol.ofText terms)) 0
        (Text.writeOperators (Slot.layout 0 (Symbol.ofText terms)))).map Text.trim := by
  rw [Slot.layout_writeOperators]
  rfl

end PlainSearch
