/-
  Proofs/Request/Operator.lean --- what the writing of operators changes.

  WHAT THIS FILE IS FOR.  Two passes go over the tokens of search terms: one that
  spells connectives in capitals, and one that writes proximity operators.  The
  second is given here as a relation, `Written`, with one case for every way to go
  on: a token is kept because no operator begins at it, or an operator with both
  its operands is written and the tokens behind it are next.

  RESPELLING.  What either pass does to the symbols is said once, by `Respelled`:
  here and there a run of characters gives way to another one, none of them with a
  quote, none of them empty, and alike in `Text.gist`, which is what is left of a
  text without blanks, slashes and letter case.  What follows from that alone:

      the phrases stay, in order (`Respelled.phrases_eq`);
      so do the quotes outside of phrases (`Respelled.count_quote_eq`);
      a reading stays a reading: no quote gets a partner it did not have, and none
      loses one (`Respelled.isReading`).
-/
import PlainSearch.Proofs.Request.Phrase
import PlainSearch.Proofs.Request.Token
import PlainSearch.Proofs.Text.LowerCase
import PlainSearch.Request.Operator

set_option autoImplicit false

namespace PlainSearch

/-- What is left of a text without blanks and slashes, ASCII letters as capitals. -/
def Text.gist (t : Text) : Text :=
  (t.filter fun c => !Text.isBlank c && c ≠ '/').map Char.toUpper

namespace Text

@[simp] theorem gist_append (s t : Text) : gist (s ++ t) = gist s ++ gist t := by
  simp [gist]

/-- Blanks have no part in the gist. -/
theorem gist_of_forall_isBlank {g : Text} (h : ∀ c ∈ g, isBlank c = true) : gist g = [] := by
  have hfilter : g.filter (fun c => !isBlank c && c ≠ '/') = [] := by
    rw [List.filter_eq_nil_iff]
    intro c hc
    simp [h c hc]
  rw [gist, hfilter]
  rfl

/-- Trimming takes nothing from the gist. -/
theorem gist_trim (t : Text) : gist (trim t) = gist t := by
  obtain ⟨g, g', ht, hg, hg'⟩ := exists_eq_append_trimBy isBlank t
  have hgist := congrArg gist ht
  rw [gist_append, gist_append, gist_of_forall_isBlank hg, gist_of_forall_isBlank hg',
    List.nil_append, List.append_nil] at hgist
  exact hgist.symm

/-- Letter case has no part in the gist. -/
theorem gist_map_asciiLowerChar (t : Text) : gist (t.map asciiLowerChar) = gist t := by
  have hchar (c : Char) : gist [asciiLowerChar c] = gist [c] :=
    apply_asciiLowerChar (fun a => gist [a]) (by decide) c
  induction t with
  | nil => rfl
  | cons c t ih =>
    have hcons (a : Char) (u : Text) : gist (a :: u) = gist [a] ++ gist u := gist_append [a] u
    rw [List.map_cons, hcons, hcons c, hchar, ih]

end Text

namespace Symbol

/-! ## Respelling -/

/-- Runs of characters have given way to others that are alike but for blanks, slashes and letter
case. -/
inductive Respelled : List Symbol → List Symbol → Prop where
  | nil : Respelled [] []
  | keep (s : Symbol) {ss ss' : List Symbol} : Respelled ss ss' → Respelled (s :: ss) (s :: ss')
  | plain {t t' : Text} {ss ss' : List Symbol} : t ≠ [] → t' ≠ [] → '"' ∉ t → '"' ∉ t' →
      Text.gist t = Text.gist t' → Respelled ss ss' →
      Respelled (ofPlain t ++ ss) (ofPlain t' ++ ss')

namespace Respelled

variable {ss ss' : List Symbol}

theorem append_left (xs : List Symbol) (h : Respelled ss ss') :
    Respelled (xs ++ ss) (xs ++ ss') := by
  induction xs with
  | nil => exact h
  | cons x xs ih => exact .keep x ih

/-- Respelling keeps the phrases. -/
theorem phrases_eq (h : Respelled ss ss') : phrases ss' = phrases ss := by
  induction h with
  | nil => rfl
  | keep s _ ih =>
    cases s with
    | char c => exact ih
    | phrase b => exact congrArg (text (.phrase b) :: ·) ih
  | plain _ _ _ _ _ _ ih =>
    rw [phrases_append, phrases_append, phrases_ofPlain, phrases_ofPlain, ih]

/-- Respelling keeps all quotes. -/
theorem count_quote_eq (h : Respelled ss ss') :
    (textOf ss').count '"' = (textOf ss).count '"' := by
  induction h with
  | nil => rfl
  | keep s _ ih => rw [textOf_cons, textOf_cons, List.count_append, List.count_append, ih]
  | plain _ _ hq hq' _ _ ih =>
    rw [textOf_append, textOf_append, textOf_ofPlain, textOf_ofPlain, List.count_append,
      List.count_append, List.count_eq_zero.2 hq, List.count_eq_zero.2 hq', ih]

/-- A respelled text begins with a quote if the text did. -/
theorem head?_eq_quote_iff (h : Respelled ss ss') :
    (textOf ss').head? = some '"' ↔ (textOf ss).head? = some '"' := by
  cases h with
  | nil => exact Iff.rfl
  | keep s _ => cases s <;> exact Iff.rfl
  | @plain t t' xs xs' hne hne' hq hq' _ _ =>
    have hfront {u : Text} (v : Text) (hu : u ≠ []) (hqu : '"' ∉ u) :
        (u ++ v).head? ≠ some '"' := by
      obtain ⟨a, u, rfl⟩ := List.exists_cons_of_ne_nil hu
      intro hhead
      simp only [List.cons_append, List.head?_cons, Option.some.injEq] at hhead
      exact hqu (by rw [hhead]; exact List.mem_cons_self)
    rw [textOf_append, textOf_append, textOf_ofPlain, textOf_ofPlain]
    exact iff_of_false (hfront _ hne' hq') (hfront _ hne hq)

/-- A respelled reading is a reading. -/
theorem isReading (h : Respelled ss ss') (hss : IsReading ss) : IsReading ss' := by
  induction h with
  | nil => exact isReading_nil
  | @keep s xs xs' hxs ih =>
    cases s with
    | phrase b =>
      obtain ⟨hb, hrest⟩ := isReading_cons_phrase_iff.1 hss
      exact isReading_cons_phrase_iff.2 ⟨hb, ih hrest⟩
    | char c =>
      obtain ⟨hat, hrest⟩ := isReading_cons_char_iff.1 hss
      refine isReading_cons_char_iff.2 ⟨?_, ih hrest⟩
      by_cases hc : c = '"'
      · subst hc
        -- whether this quote opens a phrase depends on the next character and on quotes to come
        have hmem : '"' ∈ textOf xs' ↔ '"' ∈ textOf xs := by
          rw [← List.count_pos_iff, ← List.count_pos_iff, hxs.count_quote_eq]
        rw [Phrase.at?_quote_eq_none_iff] at hat ⊢
        rw [hxs.head?_eq_quote_iff, hmem]
        exact hat
      · exact Phrase.at?_cons_of_ne _ hc
  | plain _ _ _ hq' _ _ ih => exact (ih hss.of_append).ofPlain_append hq'

/-- Respelling changes the text in blanks, slashes and letter case only. -/
theorem gist_eq (h : Respelled ss ss') : Text.gist (textOf ss') = Text.gist (textOf ss) := by
  induction h with
  | nil => rfl
  | keep s _ ih => rw [textOf_cons, textOf_cons, Text.gist_append, Text.gist_append, ih]
  | plain _ _ _ _ hgist _ ih =>
    rw [textOf_append, textOf_append, textOf_ofPlain, textOf_ofPlain, Text.gist_append,
      Text.gist_append, hgist, ih]

end Respelled
end Symbol

namespace Token

/-! ## Connectives -/

/-- Only the connectives are spelled anew, each as an expression has it. -/
theorem capitalize_cases (t : Token) :
    capitalize t = t ∨ ∃ p ∈ connectives,
      t = .word (Symbol.ofPlain p.1) ∧ capitalize t = .word (Symbol.ofPlain p.2) := by
  cases t with
  | gap cs => exact .inl rfl
  | mark c => exact .inl rfl
  | word ss =>
    simp only [capitalize]
    cases hfind : connectives.find? fun p => ss = Symbol.ofPlain p.1 with
    | none => exact .inl rfl
    | some p =>
      have hp := List.find?_some hfind
      rw [decide_eq_true_eq] at hp
      exact .inr ⟨p, List.mem_of_find?_eq_some hfind, by rw [hp], rfl⟩

/-- What holds of the spellings of connectives that is needed of any respelling. -/
theorem connectives_respelled : ∀ p ∈ connectives,
    p.1 ≠ [] ∧ p.2 ≠ [] ∧ '"' ∉ p.1 ∧ '"' ∉ p.2 ∧ Text.gist p.1 = Text.gist p.2 := by
  decide

theorem connectives_wordlike : ∀ p ∈ connectives, p.2.all Text.isWordChar = true := by
  decide

theorem respelled_map_capitalize (ts : List Token) :
    Symbol.Respelled (symbolsOf ts) (symbolsOf (ts.map capitalize)) := by
  induction ts with
  | nil => exact .nil
  | cons t ts ih =>
    rw [List.map_cons, symbolsOf_cons, symbolsOf_cons]
    rcases capitalize_cases t with ht | ⟨p, hp, ht, ht'⟩
    · rw [ht]
      exact ih.append_left t.symbols
    · obtain ⟨hne, hne', hq, hq', hgist⟩ := connectives_respelled p hp
      rw [ht', ht]
      exact .plain hne hne' hq hq' hgist ih

@[simp] theorem isWord_capitalize (t : Token) : (capitalize t).isWord = t.isWord := by
  rcases capitalize_cases t with ht | ⟨p, -, ht, ht'⟩
  · rw [ht]
  · rw [ht', ht]
    rfl

@[simp] theorem isGap_capitalize (t : Token) : (capitalize t).isGap = t.isGap := by
  rcases capitalize_cases t with ht | ⟨p, -, ht, ht'⟩
  · rw [ht]
  · rw [ht', ht]
    rfl

theorem isProper_ofPlain {t : Text} (hne : t ≠ []) (h : t.all Text.isWordChar = true) :
    IsProper (.word (Symbol.ofPlain t)) := by
  refine ⟨by simpa [Symbol.ofPlain] using hne, ?_⟩
  intro s hs
  simp only [Symbol.ofPlain, List.mem_map] at hs
  obtain ⟨c, hc, rfl⟩ := hs
  exact List.all_eq_true.1 h c hc

/-! The tokens that operators are written with. -/

theorem isProper_space : IsProper (.gap [' ']) := by
  refine ⟨by simp, ?_⟩
  intro c hc
  rw [List.mem_singleton.1 hc]
  decide

theorem isProper_slash : IsProper (.mark '/') := ⟨by decide, by decide⟩

theorem isProper_near : IsProper (.word (Symbol.ofPlain "NEAR".toList)) :=
  isProper_ofPlain (by decide) (by decide)

theorem isProper_capitalize {t : Token} (h : t.IsProper) : (capitalize t).IsProper := by
  rcases capitalize_cases t with ht | ⟨p, hp, -, ht'⟩
  · rw [ht]
    exact h
  · rw [ht']
    exact isProper_ofPlain (connectives_respelled p hp).2.1 (connectives_wordlike p hp)

theorem wellFormed_map_capitalize {ts : List Token} (h : WellFormed ts) :
    WellFormed (ts.map capitalize) := by
  induction ts with
  | nil => exact wellFormed_nil
  | cons t ts ih =>
    obtain ⟨ht, hhead, hrest⟩ := wellFormed_cons_iff.1 h
    refine wellFormed_cons_iff.2 ⟨isProper_capitalize ht, ?_, ih hrest⟩
    intro u hu
    simp only [List.head?_map, Option.mem_def, Option.map_eq_some_iff] at hu
    obtain ⟨v, hv, rfl⟩ := hu
    have hapart := hhead v hv
    simp only [Apart, isWord_capitalize, isGap_capitalize]
    exact hapart

/-! ## Proximity operators -/

/-- The second list is the first with its proximity operators written, from left to right. -/
inductive Written : List Token → List Token → Prop where
  | nil : Written [] []
  | keep {t : Token} {ts us : List Token} : proximityAt? (t :: ts) = none → Written ts us →
      Written (t :: ts) (t :: us)
  | near {a w n b : List Symbol} {g g' g'' : Text} {ts us : List Token} : isNear w = true →
      n.all isDigitSymbol = true → Written ts us →
      Written (.word a :: .gap g :: .word w :: .gap g' :: .word n :: .gap g'' :: .word b :: ts)
        (proximity a n b ++ us)

/-- What an operator at the front of tokens is made of. -/
theorem proximityAt?_eq_some {ts op : List Token} (h : proximityAt? ts = some op) :
    ∃ (a w n b : List Symbol) (g g' g'' : Text) (rest : List Token),
      ts = .word a :: .gap g :: .word w :: .gap g' :: .word n :: .gap g'' :: .word b :: rest ∧
        isNear w = true ∧ n.all isDigitSymbol = true ∧ op = proximity a n b := by
  unfold proximityAt? at h
  split at h
  · next a g w g' n g'' b rest =>
    split at h
    · next hcond =>
      rw [Bool.and_eq_true] at hcond
      exact ⟨a, w, n, b, g, g', g'', rest, rfl, hcond.1, hcond.2, (Option.some.inj h).symm⟩
    · cases h
  · cases h

/-- The pass over the tokens writes their proximity operators. -/
theorem written_writeProximity (ts : List Token) : Written ts (writeProximity 0 ts) := by
  match ts with
  | [] => exact .nil
  | t :: ts =>
    rw [writeProximity]
    cases hat : proximityAt? (t :: ts) with
    | none => exact .keep hat (written_writeProximity ts)
    | some op =>
      obtain ⟨a, w, n, b, g, g', g'', rest, hts, hnear, hdigits, hop⟩ := proximityAt?_eq_some hat
      obtain ⟨rfl, hrest⟩ := List.cons.inj hts
      subst hrest hop
      simp only
      rw [writeProximity_eq_drop]
      exact .near hnear hdigits (written_writeProximity rest)
  termination_by ts.length

/-- The word near is spelled by characters, in letters of either case. -/
theorem exists_text_of_isNear {w : List Symbol} (h : isNear w = true) :
    ∃ t, w = Symbol.ofPlain t ∧ '"' ∉ t ∧ t.map Text.asciiLowerChar = ['n', 'e', 'a', 'r'] := by
  have hlower : (Symbol.textOf w).map Text.asciiLowerChar = ['n', 'e', 'a', 'r'] := by
    have := of_decide_eq_true h
    rw [this]
    decide
  have hquote : '"' ∉ Symbol.textOf w := by
    intro hq
    have hmem := List.mem_map_of_mem hq (f := Text.asciiLowerChar)
    rw [hlower] at hmem
    exact absurd hmem (by decide)
  exact ⟨Symbol.textOf w, (Symbol.ofPlain_textOf hquote).symm, hquote, hlower⟩

/-- The tokens of an operator, and those behind it, each for itself. -/
theorem WellFormed.operator {a w n b : List Symbol} {g g' g'' : Text} {ts : List Token}
    (h : WellFormed
      (.word a :: .gap g :: .word w :: .gap g' :: .word n :: .gap g'' :: .word b :: ts)) :
    IsProper (.word a) ∧ IsProper (.gap g) ∧ IsProper (.gap g') ∧ IsProper (.word n) ∧
      IsProper (.gap g'') ∧ WellFormed (.word b :: ts) := by
  obtain ⟨ha, -, h⟩ := wellFormed_cons_iff.1 h
  obtain ⟨hg, -, h⟩ := wellFormed_cons_iff.1 h
  obtain ⟨-, -, h⟩ := wellFormed_cons_iff.1 h
  obtain ⟨hg', -, h⟩ := wellFormed_cons_iff.1 h
  obtain ⟨hn, -, h⟩ := wellFormed_cons_iff.1 h
  obtain ⟨hg'', -, h⟩ := wellFormed_cons_iff.1 h
  exact ⟨ha, hg, hg', hn, hg'', h⟩

theorem respelled_of_written {ts us : List Token} (h : Written ts us) (hts : WellFormed ts) :
    Symbol.Respelled (symbolsOf ts) (symbolsOf us) := by
  induction h with
  | nil => exact .nil
  | @keep t ts us _ _ ih =>
    obtain ⟨-, -, hrest⟩ := wellFormed_cons_iff.1 hts
    exact (ih hrest).append_left t.symbols
  | @near a w n b g g' g'' ts us hnear _ _ ih =>
    obtain ⟨-, hg, hg', -, hg'', hb⟩ := hts.operator
    obtain ⟨-, -, hrest⟩ := wellFormed_cons_iff.1 hb
    obtain ⟨t, rfl, hquote, ht⟩ := exists_text_of_isNear hnear
    have hblank {u : Text} (hu : IsProper (.gap u)) : ∀ c ∈ u, Text.isBlank c = true := by
      intro c hc
      exact (hu.2 c hc).2
    have hgap {u : Text} (hu : IsProper (.gap u)) : '"' ∉ u :=
      Symbol.not_mem_quote_of_isBlank (hblank hu)
    -- the word near with the gaps around it gives way to one run, and so does the last gap
    have hback : Symbol.Respelled (Symbol.ofPlain g'' ++ (b ++ symbolsOf ts))
        (Symbol.ofPlain [' '] ++ (b ++ symbolsOf us)) := by
      refine .plain hg''.1 (by simp) (hgap hg'') (by simp) ?_ ((ih hrest).append_left b)
      rw [Text.gist_of_forall_isBlank (hblank hg'')]
      decide
    have hmiddle : Symbol.Respelled
        (Symbol.ofPlain (g ++ t ++ g') ++ (n ++ (Symbol.ofPlain g'' ++ (b ++ symbolsOf ts))))
        (Symbol.ofPlain " NEAR/".toList ++ (n ++ (Symbol.ofPlain [' '] ++ (b ++ symbolsOf us)))) := by
      refine .plain ?_ (by decide) ?_ (by decide) ?_ (hback.append_left n)
      · simp [hg.1]
      · simp [hgap hg, hquote, hgap hg']
      · rw [Text.gist_append, Text.gist_append, Text.gist_of_forall_isBlank (hblank hg),
          Text.gist_of_forall_isBlank (hblank hg'), ← Text.gist_map_asciiLowerChar t, ht]
        decide
    have h := hmiddle.append_left a
    simpa [symbols, proximity, Symbol.ofPlain] using h

/-- The kind of the first token stays. -/
theorem Written.apart_head? {t : Token} {ts us : List Token} (h : Written ts us)
    (hts : ∀ u ∈ ts.head?, Apart t u) : ∀ u ∈ us.head?, Apart t u := by
  cases h with
  | nil => exact hts
  | keep _ _ => exact hts
  | near _ _ _ =>
    intro u hu
    cases hu
    exact hts _ rfl

theorem wellFormed_of_written {ts us : List Token} (h : Written ts us) (hts : WellFormed ts) :
    WellFormed us := by
  induction h with
  | nil => exact hts
  | @keep t ts us _ hus ih =>
    obtain ⟨ht, hhead, hrest⟩ := wellFormed_cons_iff.1 hts
    exact wellFormed_cons_iff.2 ⟨ht, hus.apart_head? hhead, ih hrest⟩
  | @near a w n b g g' g'' ts us _ _ hus ih =>
    obtain ⟨ha, -, -, hn, -, hb⟩ := hts.operator
    obtain ⟨hb, hhead, hrest⟩ := wellFormed_cons_iff.1 hb
    have hback := wellFormed_cons_iff.2 ⟨hb, hus.apart_head? hhead, ih hrest⟩
    have hdistance := (hback.cons_cons isProper_space (apart_gap_word _ _)).cons_cons hn
      (apart_word_gap _ _)
    have hoperator := (hdistance.cons_cons isProper_slash (apart_mark _ _)).cons_cons isProper_near
      (apart_word_mark _ _)
    exact (hoperator.cons_cons isProper_space (apart_gap_word _ _)).cons_cons ha
      (apart_word_gap _ _)

/-- A word of the result is a word of before, or one that operators are spelled with. -/
theorem Written.mem_words {ss : List Symbol} {ts us : List Token} (h : Written ts us)
    (hmem : .word ss ∈ us) : .word ss ∈ ts ∨ ss = Symbol.ofPlain "NEAR".toList := by
  induction h with
  | nil => exact .inl hmem
  | @keep t ts us _ _ ih =>
    rcases List.mem_cons.1 hmem with rfl | hmem
    · exact .inl List.mem_cons_self
    · exact (ih hmem).imp_left (List.mem_cons_of_mem t)
  | @near a w n b g g' g'' ts us _ _ _ ih =>
    simp only [proximity, List.cons_append, List.nil_append, List.mem_cons, Token.word.injEq,
      reduceCtorEq, false_or] at hmem
    simp only [List.mem_cons, Token.word.injEq, reduceCtorEq, false_or]
    rcases hmem with rfl | rfl | rfl | rfl | hmem
    · exact .inl (.inl rfl)
    · exact .inr rfl
    · exact .inl (.inr (.inr (.inl rfl)))
    · exact .inl (.inr (.inr (.inr (.inl rfl))))
    · exact (ih hmem).imp_left fun h => .inr (.inr (.inr (.inr h)))

theorem mem_words_capitalize {ss : List Symbol} {ts : List Token}
    (hmem : .word ss ∈ ts.map capitalize) :
    .word ss ∈ ts ∨ ∃ p ∈ connectives, ss = Symbol.ofPlain p.2 := by
  obtain ⟨t, ht, heq⟩ := List.mem_map.1 hmem
  rcases capitalize_cases t with hkeep | ⟨p, hp, -, hcap⟩
  · rw [hkeep] at heq
    exact .inl (heq ▸ ht)
  · rw [hcap] at heq
    exact .inr ⟨p, hp, (Token.word.inj heq).symm⟩

/-! ## Both passes -/

variable {ts : List Token}

theorem respelled_writeOperators (h : WellFormed ts) :
    Symbol.Respelled (symbolsOf ts) (symbolsOf (ts.map capitalize)) ∧
      Symbol.Respelled (symbolsOf (ts.map capitalize)) (symbolsOf (writeOperators ts)) :=
  ⟨respelled_map_capitalize ts,
    respelled_of_written (written_writeProximity _) (wellFormed_map_capitalize h)⟩

theorem wellFormed_writeOperators (h : WellFormed ts) : WellFormed (writeOperators ts) :=
  wellFormed_of_written (written_writeProximity _) (wellFormed_map_capitalize h)

/-- A word of more than four symbols is there after the writing of operators only if it was
there before. -/
theorem mem_words_writeOperators {ss : List Symbol} (hmem : .word ss ∈ writeOperators ts) :
    .word ss ∈ ts ∨ ss.length ≤ 4 := by
  have hshort : ∀ p ∈ connectives, (Symbol.ofPlain p.2).length ≤ 4 := by decide
  rcases (written_writeProximity _).mem_words hmem with hmem | rfl
  · rcases mem_words_capitalize hmem with hmem | ⟨p, hp, rfl⟩
    · exact .inl hmem
    · exact .inr (hshort p hp)
  · exact .inr (by decide)

end Token
end PlainSearch
