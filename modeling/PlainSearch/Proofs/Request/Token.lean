/-
  Proofs/Request/Token.lean --- tokens are maximal runs.

  WHAT THIS FILE IS FOR.  Operators are recognized token by token, so it matters
  that a token is all of its word or its gap.  `WellFormed` says so without
  mention of how the tokens are made: every token holds symbols of its own kind
  only, and no two neighbours are both words or both gaps.

      the tokens of any symbols are well formed (`wellFormed_ofSymbols`);

      well-formed tokens are those of their symbols (`ofSymbols_symbolsOf`);

      a run of wordlike symbols in the text of well-formed tokens lies inside
      one of the words (`exists_word_of_isInfix`).
-/
import Mathlib.Data.List.Chain
import PlainSearch.Request.Token

set_option autoImplicit false

namespace PlainSearch.Token

/-- A token of symbols that make up a word. -/
def isWord : Token → Bool
  | .word _ => true
  | _ => false

/-- A token of blanks. -/
def isGap : Token → Bool
  | .gap _ => true
  | _ => false

/-- A token is not empty and holds only symbols of its kind. -/
def IsProper : Token → Prop
  | .word ss => ss ≠ [] ∧ ∀ s ∈ ss, s.isWordlike = true
  | .gap cs => cs ≠ [] ∧ ∀ c ∈ cs, Text.isWordChar c = false ∧ Text.isBlank c = true
  | .mark c => Text.isWordChar c = false ∧ Text.isBlank c = false

/-- Two tokens that cannot be one: not two words, and not two gaps. -/
def Apart (t u : Token) : Prop :=
  ¬ (t.isWord = true ∧ u.isWord = true) ∧ ¬ (t.isGap = true ∧ u.isGap = true)

/-- The tokens are the maximal runs of what they hold. -/
structure WellFormed (ts : List Token) : Prop where
  proper : ∀ t ∈ ts, t.IsProper
  apart : ts.IsChain Apart

theorem wellFormed_nil : WellFormed [] := by
  refine ⟨?_, List.IsChain.nil⟩
  intro t ht
  cases ht

theorem wellFormed_cons_iff {t : Token} {ts : List Token} :
    WellFormed (t :: ts) ↔ t.IsProper ∧ (∀ u ∈ ts.head?, Apart t u) ∧ WellFormed ts := by
  constructor
  · rintro ⟨hproper, hapart⟩
    obtain ⟨hhead, htail⟩ := List.isChain_cons.1 hapart
    exact ⟨hproper t List.mem_cons_self, hhead,
      fun u hu => hproper u (List.mem_cons_of_mem t hu), htail⟩
  · rintro ⟨ht, hhead, hproper, hapart⟩
    refine ⟨?_, List.isChain_cons.2 ⟨hhead, hapart⟩⟩
    intro u hu
    rcases List.mem_cons.1 hu with rfl | hu
    · exact ht
    · exact hproper u hu

theorem WellFormed.cons_cons {t u : Token} {ts : List Token} (h : WellFormed (u :: ts))
    (ht : t.IsProper) (hapart : Apart t u) : WellFormed (t :: u :: ts) := by
  refine wellFormed_cons_iff.2 ⟨ht, ?_, h⟩
  intro v hv
  cases hv
  exact hapart

theorem apart_word_gap (ss : List Symbol) (cs : Text) : Apart (.word ss) (.gap cs) := by
  simp [Apart, isWord, isGap]

theorem apart_gap_word (cs : Text) (ss : List Symbol) : Apart (.gap cs) (.word ss) := by
  simp [Apart, isWord, isGap]

theorem apart_mark (c : Char) (t : Token) : Apart (.mark c) t := by
  simp [Apart, isWord, isGap]

theorem apart_word_mark (ss : List Symbol) (c : Char) : Apart (.word ss) (.mark c) := by
  simp [Apart, isWord, isGap]

/-! ## Tokens of symbols -/

theorem wellFormed_consWord {s : Symbol} {ts : List Token} (hs : s.isWordlike = true)
    (h : WellFormed ts) : WellFormed (consWord s ts) := by
  unfold consWord
  split
  · next ss ts =>
    obtain ⟨⟨-, hss⟩, hhead, hrest⟩ := wellFormed_cons_iff.1 h
    refine wellFormed_cons_iff.2 ⟨⟨by simp, ?_⟩, hhead, hrest⟩
    intro x hx
    rcases List.mem_cons.1 hx with rfl | hx
    · exact hs
    · exact hss x hx
  · next hne =>
    refine wellFormed_cons_iff.2 ⟨⟨by simp, by simpa using hs⟩, ?_, h⟩
    intro u hu
    cases ts with
    | nil => cases hu
    | cons t ts =>
      cases t with
      | word ss => exact absurd rfl (hne ss ts)
      | gap cs => cases hu; exact apart_word_gap _ cs
      | mark c => cases hu; exact apart_word_mark _ c

theorem wellFormed_consBlank {c : Char} {ts : List Token} (hw : Text.isWordChar c = false)
    (hb : Text.isBlank c = true) (h : WellFormed ts) : WellFormed (consBlank c ts) := by
  unfold consBlank
  split
  · next cs ts =>
    obtain ⟨⟨-, hcs⟩, hhead, hrest⟩ := wellFormed_cons_iff.1 h
    refine wellFormed_cons_iff.2 ⟨⟨by simp, ?_⟩, hhead, hrest⟩
    intro x hx
    rcases List.mem_cons.1 hx with rfl | hx
    · exact ⟨hw, hb⟩
    · exact hcs x hx
  · next hne =>
    refine wellFormed_cons_iff.2 ⟨⟨by simp, by simpa using ⟨hw, hb⟩⟩, ?_, h⟩
    intro u hu
    cases ts with
    | nil => cases hu
    | cons t ts =>
      cases t with
      | word ss => cases hu; exact apart_gap_word _ ss
      | gap cs => exact absurd rfl (hne cs ts)
      | mark d => cases hu; simp [Apart, isWord, isGap]

theorem wellFormed_consSymbol (s : Symbol) {ts : List Token} (h : WellFormed ts) :
    WellFormed (consSymbol s ts) := by
  unfold consSymbol
  split
  · exact wellFormed_consWord rfl h
  · next c =>
    split
    · next hw => exact wellFormed_consWord hw h
    · next hw =>
      have hw' : Text.isWordChar c = false := Bool.not_eq_true _ ▸ hw
      split
      · next hb => exact wellFormed_consBlank hw' hb h
      · next hb =>
        exact wellFormed_cons_iff.2
          ⟨⟨hw', Bool.not_eq_true _ ▸ hb⟩, fun u _ => apart_mark c u, h⟩

/-- Symbols are read as maximal runs. -/
theorem wellFormed_ofSymbols (ss : List Symbol) : WellFormed (ofSymbols ss) := by
  induction ss with
  | nil => exact wellFormed_nil
  | cons s ss ih => exact wellFormed_consSymbol s ih

/-! ## Symbols of tokens -/

@[simp] theorem symbolsOf_nil : symbolsOf [] = [] := rfl

@[simp] theorem symbolsOf_cons (t : Token) (ts : List Token) :
    symbolsOf (t :: ts) = t.symbols ++ symbolsOf ts := rfl

@[simp] theorem symbolsOf_append (ts us : List Token) :
    symbolsOf (ts ++ us) = symbolsOf ts ++ symbolsOf us := List.flatMap_append

theorem consSymbol_of_isWordlike {s : Symbol} (hs : s.isWordlike = true) (ts : List Token) :
    consSymbol s ts = consWord s ts := by
  cases s with
  | phrase b => rfl
  | char c => exact if_pos hs

theorem foldr_consSymbol_word {ss : List Symbol} {ts : List Token}
    (hword : IsProper (.word ss)) (hts : ∀ u ∈ ts.head?, u.isWord = false) :
    ss.foldr consSymbol ts = .word ss :: ts := by
  obtain ⟨hne, hss⟩ := hword
  induction ss with
  | nil => exact absurd rfl hne
  | cons s ss ih =>
    rw [List.foldr_cons, consSymbol_of_isWordlike (hss s List.mem_cons_self)]
    by_cases hlast : ss = []
    · subst hlast
      cases ts with
      | nil => rfl
      | cons u ts =>
        cases u with
        | word ss' => cases hts _ rfl
        | gap cs => rfl
        | mark c => rfl
    · rw [ih hlast fun x hx => hss x (List.mem_cons_of_mem s hx)]
      rfl

theorem foldr_consSymbol_gap {cs : Text} {ts : List Token} (hgap : IsProper (.gap cs))
    (hts : ∀ u ∈ ts.head?, u.isGap = false) :
    (Symbol.ofPlain cs).foldr consSymbol ts = .gap cs :: ts := by
  obtain ⟨hne, hcs⟩ := hgap
  induction cs with
  | nil => exact absurd rfl hne
  | cons c cs ih =>
    obtain ⟨hword, hblank⟩ := hcs c List.mem_cons_self
    have hcons (us : List Token) : consSymbol (.char c) us = consBlank c us := by
      simp [consSymbol, hword, hblank]
    have hfoldr : (Symbol.ofPlain (c :: cs)).foldr consSymbol ts
        = consBlank c ((Symbol.ofPlain cs).foldr consSymbol ts) := hcons _
    rw [hfoldr]
    by_cases hlast : cs = []
    · subst hlast
      cases ts with
      | nil => rfl
      | cons u ts =>
        cases u with
        | word ss => rfl
        | gap cs' => cases hts _ rfl
        | mark c => rfl
    · rw [ih hlast fun x hx => hcs x (List.mem_cons_of_mem c hx)]
      rfl

/-- Reading the symbols of well-formed tokens gives the tokens. -/
theorem ofSymbols_symbolsOf {ts : List Token} (h : WellFormed ts) :
    ofSymbols (symbolsOf ts) = ts := by
  induction ts with
  | nil => rfl
  | cons t ts ih =>
    obtain ⟨ht, hhead, hrest⟩ := wellFormed_cons_iff.1 h
    rw [symbolsOf_cons, ofSymbols, List.foldr_append]
    change t.symbols.foldr consSymbol (ofSymbols (symbolsOf ts)) = t :: ts
    rw [ih hrest]
    cases t with
    | word ss =>
      exact foldr_consSymbol_word ht fun u hu =>
        Bool.eq_false_iff.2 fun hword => (hhead u hu).1 ⟨rfl, hword⟩
    | gap cs =>
      exact foldr_consSymbol_gap ht fun u hu =>
        Bool.eq_false_iff.2 fun hgap => (hhead u hu).2 ⟨rfl, hgap⟩
    | mark c => simp [symbols, consSymbol, ht.1, ht.2]

/-! ## Words -/

theorem symbols_isInfix_of_mem {t : Token} {ts : List Token} (h : t ∈ ts) :
    t.symbols <:+: symbolsOf ts := by
  obtain ⟨front, back, rfl⟩ := List.append_of_mem h
  exact ⟨symbolsOf front, symbolsOf back, by simp⟩

theorem symbols_ne_nil {t : Token} (h : t.IsProper) : t.symbols ≠ [] := by
  cases t with
  | word ss => exact h.1
  | gap cs => simpa [symbols, Symbol.ofPlain] using h.1
  | mark c => simp [symbols]

/-- Wordlike symbols stand in words only. -/
theorem isWord_of_mem_symbols {t : Token} {s : Symbol} (h : t.IsProper) (hs : s ∈ t.symbols)
    (hw : s.isWordlike = true) : t.isWord = true := by
  cases t with
  | word ss => rfl
  | gap cs =>
    simp only [symbols, Symbol.ofPlain, List.mem_map] at hs
    obtain ⟨c, hc, rfl⟩ := hs
    rw [Symbol.isWordlike, (h.2 c hc).1] at hw
    cases hw
  | mark c =>
    simp only [symbols, List.mem_singleton] at hs
    rw [hs, Symbol.isWordlike, h.1] at hw
    cases hw

/-- A run of wordlike symbols lies inside one word: it can neither contain a gap or a mark nor
reach from one word into another. -/
theorem exists_word_of_isInfix {w : List Symbol} {ts : List Token} (hts : WellFormed ts)
    (hne : w ≠ []) (hw : ∀ s ∈ w, s.isWordlike = true) (h : w <:+: symbolsOf ts) :
    ∃ ss, .word ss ∈ ts ∧ w <:+: ss := by
  induction ts with
  | nil =>
    rw [symbolsOf_nil, List.infix_nil] at h
    exact absurd h hne
  | cons t ts ih =>
    obtain ⟨ht, hhead, hrest⟩ := wellFormed_cons_iff.1 hts
    rw [symbolsOf_cons, List.infix_append_iff_ne_nil] at h
    rcases h with h | h | ⟨w₁, w₂, hne₁, hne₂, rfl, hfront, hback⟩
    · obtain ⟨s, hs⟩ := List.exists_mem_of_ne_nil w hne
      have hword := isWord_of_mem_symbols ht (h.subset hs) (hw s hs)
      cases t with
      | word ss => exact ⟨ss, List.mem_cons_self, h⟩
      | gap cs => cases hword
      | mark c => cases hword
    · obtain ⟨ss, hmem, hin⟩ := ih hrest h
      exact ⟨ss, List.mem_cons_of_mem t hmem, hin⟩
    · -- a run across the border would make words of the tokens on both sides
      exfalso
      obtain ⟨s, hs⟩ := List.exists_mem_of_ne_nil w₁ hne₁
      have hword := isWord_of_mem_symbols ht (hfront.subset hs)
        (hw s (List.mem_append_left w₂ hs))
      cases ts with
      | nil => exact hne₂ (List.prefix_nil.1 hback)
      | cons u us =>
        obtain ⟨hu, -, -⟩ := wellFormed_cons_iff.1 hrest
        obtain ⟨x, xs, hx⟩ := List.exists_cons_of_ne_nil hne₂
        obtain ⟨y, ys, hy⟩ := List.exists_cons_of_ne_nil (symbols_ne_nil hu)
        rw [hx, symbolsOf_cons, hy, List.cons_append, List.cons_prefix_cons] at hback
        have hxu : x ∈ u.symbols := by rw [hy, hback.1]; exact List.mem_cons_self
        have hword' := isWord_of_mem_symbols hu hxu (hw x (by simp [hx]))
        exact (hhead u rfl).1 ⟨hword, hword'⟩

end PlainSearch.Token
