/-
  Proofs/Request/Marker.lean --- where a request is cut, and which phrases that leaves.

  WHAT THIS FILE IS FOR.  The search terms of a request begin behind a marker, and
  the marker is looked for in the whole text, inside phrases too.  `termsStart` is
  the place.  A phrase `Straddles` it if the place lies inside the phrase.

      if none does, the phrases of the search terms are those of the request that
      begin at the place or behind it, and the others end at it or before it
      (`Phrase.texts_drop`, `Phrase.stop_le_or_le_start`);

      if one does, half of it is lost, and the quote that is left begins to open
      what it used to close (`Symbol.count_quote_drop_of_straddles`).

  In both cases the expression holds the phrases of the search terms, and their
  quotes, all of them (`texts_matchExpression`).
-/
import PlainSearch.Proofs.Request.Expression
import PlainSearch.Request.Expression

set_option autoImplicit false

namespace PlainSearch

/-! ## Cutting a text between two phrases -/

/-- The place lies inside the phrase, behind its first character and before its end. -/
def Phrase.Straddles (p : Phrase) (k : Nat) : Prop := p.start < k ∧ k < p.stop

instance (p : Phrase) (k : Nat) : Decidable (p.Straddles k) :=
  inferInstanceAs (Decidable (p.start < k ∧ k < p.stop))

namespace Symbol

theorem length_text_phrase (b : Text) : (text (.phrase b)).length = b.length + 2 := by
  simp [text]

theorem le_start_of_mem_placed {n : Nat} {ss : List Symbol} {p : Phrase}
    (h : p ∈ placed n ss) : n ≤ p.start := by
  induction ss generalizing n with
  | nil => cases h
  | cons s ss ih =>
    cases s with
    | char c => exact Nat.le_of_succ_le (ih h)
    | phrase b =>
      rcases List.mem_cons.1 h with rfl | h
      · exact Nat.le_refl n
      · exact Nat.le_trans (Nat.le_add_right n _) (ih h)

theorem stop_le_of_mem_placed {n : Nat} {ss : List Symbol} {p : Phrase}
    (h : p ∈ placed n ss) : p.stop ≤ n + (textOf ss).length := by
  induction ss generalizing n with
  | nil => cases h
  | cons s ss ih =>
    rw [textOf_cons, List.length_append]
    cases s with
    | char c =>
      have := ih h
      simp only [text, List.length_singleton]
      omega
    | phrase b =>
      rcases List.mem_cons.1 h with rfl | h
      · simp only [Phrase.stop]
        omega
      · have := ih h
        omega

/-- A phrase among symbols is one of them. -/
theorem exists_phrase_of_mem_placed {n : Nat} {ss : List Symbol} {p : Phrase}
    (h : p ∈ placed n ss) :
    ∃ ss₁ b ss₂, ss = ss₁ ++ .phrase b :: ss₂ ∧
      p = ⟨n + (textOf ss₁).length, text (.phrase b)⟩ := by
  induction ss generalizing n with
  | nil => cases h
  | cons s ss ih =>
    cases s with
    | char c =>
      obtain ⟨ss₁, b, ss₂, rfl, rfl⟩ := ih h
      refine ⟨.char c :: ss₁, b, ss₂, rfl, ?_⟩
      simp [text, Nat.add_assoc, Nat.add_comm 1]
    | phrase b =>
      rcases List.mem_cons.1 h with rfl | h
      · exact ⟨[], b, ss, rfl, rfl⟩
      · obtain ⟨ss₁, b', ss₂, rfl, rfl⟩ := ih h
        refine ⟨.phrase b :: ss₁, b', ss₂, rfl, ?_⟩
        simp [Nat.add_assoc]

/-- Symbols fall into those before a place and those behind it, if no phrase straddles it. -/
theorem exists_append_of_not_straddles {n k : Nat} {ss : List Symbol} (hn : n ≤ k)
    (hk : k ≤ n + (textOf ss).length) (h : ∀ p ∈ placed n ss, ¬ p.Straddles k) :
    ∃ ss₁ ss₂, ss = ss₁ ++ ss₂ ∧ n + (textOf ss₁).length = k := by
  induction ss generalizing n with
  | nil => exact ⟨[], [], rfl, Nat.le_antisymm (by simpa using hn) (by simpa using hk)⟩
  | cons s ss ih =>
    rcases Nat.eq_or_lt_of_le hn with rfl | hlt
    · exact ⟨[], s :: ss, rfl, by simp⟩
    · rw [textOf_cons, List.length_append] at hk
      cases s with
      | char c =>
        simp only [text, List.length_singleton] at hk
        obtain ⟨ss₁, ss₂, rfl, hlength⟩ := ih (n := n + 1) hlt (by omega) h
        refine ⟨.char c :: ss₁, ss₂, rfl, ?_⟩
        rw [textOf_cons, List.length_append]
        simp only [text, List.length_singleton]
        omega
      | phrase b =>
        -- the place cannot lie inside this phrase, so it lies behind it
        have hbehind : n + (text (.phrase b)).length ≤ k := by
          have hfirst := h _ List.mem_cons_self
          simp only [Phrase.Straddles, Phrase.stop] at hfirst
          omega
        obtain ⟨ss₁, ss₂, rfl, hlength⟩ := ih hbehind (by omega) fun p hp =>
          h p (List.mem_cons_of_mem _ hp)
        refine ⟨.phrase b :: ss₁, ss₂, rfl, ?_⟩
        rw [textOf_cons, List.length_append]
        omega

/-- A text is read alike from a place on, if no phrase straddles it. -/
theorem exists_ofText_drop {t : Text} {k : Nat} (hk : k ≤ t.length)
    (h : ∀ p ∈ Phrase.find t, ¬ p.Straddles k) :
    ∃ ss, ofText t = ss ++ ofText (t.drop k) ∧ (textOf ss).length = k := by
  rw [find_eq_placed] at h
  obtain ⟨ss₁, ss₂, hss, hlength⟩ := exists_append_of_not_straddles (Nat.zero_le k)
    (by rw [textOf_ofText, Nat.zero_add]; exact hk) h
  rw [Nat.zero_add] at hlength
  have hreading : IsReading ss₂ := (hss ▸ isReading_ofText t).of_append
  have htext : t = textOf ss₁ ++ textOf ss₂ := by
    rw [← textOf_append, ← hss, textOf_ofText]
  have hdrop : t.drop k = textOf ss₂ := by rw [htext, ← hlength, List.drop_left]
  exact ⟨ss₁, by rw [hdrop, hreading, ← hss], hlength⟩

end Symbol

namespace Phrase

variable {t : Text} {k : Nat}

/-- A phrase that does not straddle a place lies before it or behind it. -/
theorem stop_le_or_le_start {p : Phrase} (h : ¬ p.Straddles k) : p.stop ≤ k ∨ k ≤ p.start := by
  simp only [Straddles] at h
  omega

/-- The phrases from a place on, if none straddles it. -/
theorem texts_drop (hk : k ≤ t.length) (h : ∀ p ∈ find t, ¬ p.Straddles k) :
    texts (t.drop k) = ((find t).filter fun p => k ≤ p.start).map (·.text) := by
  obtain ⟨ss, hss, hlength⟩ := Symbol.exists_ofText_drop hk h
  have hfind := Symbol.placed_append 0 ss (Symbol.ofText (t.drop k))
  rw [← hss, ← Symbol.find_eq_placed, Nat.zero_add, hlength] at hfind
  have hbefore : (Symbol.placed 0 ss).filter (fun p => k ≤ p.start) = [] := by
    rw [List.filter_eq_nil_iff]
    intro p hp
    have hstop := Symbol.stop_le_of_mem_placed hp
    obtain ⟨ss₁, b, ss₂, -, rfl⟩ := Symbol.exists_phrase_of_mem_placed hp
    rw [stop, Symbol.length_text_phrase] at hstop
    simp only at hstop
    simp only [decide_eq_true_eq]
    omega
  have hbehind : (Symbol.placed k (Symbol.ofText (t.drop k))).filter (fun p => k ≤ p.start)
      = Symbol.placed k (Symbol.ofText (t.drop k)) := by
    rw [List.filter_eq_self]
    intro p hp
    simpa using Symbol.le_start_of_mem_placed hp
  rw [hfind, List.filter_append, hbefore, hbehind, List.nil_append, Symbol.map_text_placed,
    Symbol.texts_eq_phrases]

/-- A phrase of a text stands in it at its place, character by character. -/
theorem exists_of_mem_find {p : Phrase} (h : p ∈ find t) :
    ∃ before b after, t = before ++ p.text ++ after ∧ p.start = before.length ∧
      p.text = '"' :: b ++ ['"'] := by
  rw [Symbol.find_eq_placed] at h
  obtain ⟨ss₁, b, ss₂, hss, rfl⟩ := Symbol.exists_phrase_of_mem_placed h
  refine ⟨Symbol.textOf ss₁, b, Symbol.textOf ss₂, ?_, Nat.zero_add _, rfl⟩
  rw [List.append_assoc, ← Symbol.textOf_cons, ← Symbol.textOf_append, ← hss,
    Symbol.textOf_ofText]

theorem isInfix_of_mem_texts {w : Text} (h : w ∈ texts t) : w <:+: t := by
  obtain ⟨p, hp, rfl⟩ := List.mem_map.1 h
  obtain ⟨before, -, after, ht, -, -⟩ := exists_of_mem_find hp
  exact ⟨before, after, ht.symm⟩

/-- A phrase that ends within a part of the text without quotes ends before it. -/
theorem stop_le_of_not_mem_quote {before m after : Text} {p : Phrase}
    (hp : p ∈ find (before ++ m ++ after)) (hm : '"' ∉ m)
    (hstop : p.stop ≤ before.length + m.length) : p.stop ≤ before.length := by
  obtain ⟨x, b, y, ht, hstart, htext⟩ := exists_of_mem_find hp
  rw [stop, hstart] at hstop ⊢
  rw [htext] at ht hstop ⊢
  rw [List.length_append, List.length_cons, List.length_singleton] at hstop ⊢
  by_contra hlt
  -- the last character of the phrase would be one of the part
  have hlast : (before ++ m ++ after)[x.length + (b.length + 1)]? = some '"' := by
    rw [ht, List.append_assoc, List.getElem?_append_right (Nat.le_add_right _ _),
      Nat.add_sub_cancel_left]
    simp
  rw [List.append_assoc, List.getElem?_append_right (by omega),
    List.getElem?_append_left (by omega)] at hlast
  apply hm
  exact List.mem_of_getElem? hlast

end Phrase

namespace Symbol

/-! ## Cutting through a phrase -/

/-- A text with no more quotes than its phrases have has none outside of them. -/
theorem count_char_quote_eq_zero {t : Text}
    (hquotes : t.count '"' = 2 * (Phrase.find t).length) :
    (ofText t).count (.char '"') = 0 := by
  have hall := count_quote_textOf (isReading_ofText t)
  have hcount : (Phrase.find t).length = (phrases (ofText t)).length := by
    rw [find_eq_placed, ← map_text_placed 0 (ofText t), List.length_map]
  rw [textOf_ofText, hquotes, hcount] at hall
  omega

/-- If all quotes of a text belong to phrases, every part of it that begins inside a phrase has an
odd number of quotes. -/
theorem count_quote_drop_of_straddles {t : Text} {k : Nat} {p : Phrase} (hp : p ∈ Phrase.find t)
    (h : p.Straddles k) (hquotes : t.count '"' = 2 * (Phrase.find t).length) :
    (t.drop k).count '"' % 2 = 1 := by
  rw [find_eq_placed] at hp
  obtain ⟨ss₁, b, ss₂, hss, rfl⟩ := exists_phrase_of_mem_placed hp
  obtain ⟨hfront, hback⟩ := h
  rw [Nat.zero_add] at hfront
  rw [Phrase.stop, Nat.zero_add, length_text_phrase] at hback
  have hreading : IsReading (ss₁ ++ .phrase b :: ss₂) := hss ▸ isReading_ofText t
  obtain ⟨⟨-, hb⟩, hrest⟩ := isReading_cons_phrase_iff.1 hreading.of_append
  -- no quote is left outside of phrases, in the whole text and so behind the cut
  have houtside : ss₂.count (.char '"') = 0 := by
    have hall := count_char_quote_eq_zero hquotes
    rw [hss, List.count_append, List.count_cons] at hall
    omega
  obtain ⟨j, hj⟩ : ∃ j, k = (textOf ss₁).length + (j + 1) := by
    simp only at hfront
    exact ⟨k - (textOf ss₁).length - 1, by omega⟩
  have htext : t = textOf ss₁ ++ (text (.phrase b) ++ textOf ss₂) := by
    rw [← textOf_cons, ← textOf_append, ← hss, textOf_ofText]
  have hinside : j ≤ b.length := by
    simp only at hfront hback
    omega
  have hdrop : t.drop k = b.drop j ++ '"' :: textOf ss₂ := by
    have hphrase : text (.phrase b) ++ textOf ss₂ = '"' :: (b ++ '"' :: textOf ss₂) := by
      simp [text]
    rw [htext, hj, List.drop_length_add_append, hphrase, List.drop_succ_cons,
      List.drop_append_of_le_length hinside]
  have hbody : (b.drop j).count '"' = 0 := by
    rw [List.count_eq_zero]
    intro hq
    exact hb (List.mem_of_mem_drop hq)
  rw [hdrop, List.count_append, hbody, List.count_cons_self, count_quote_textOf hrest, houtside]
  omega

/-- If all quotes of a text belong to phrases, every part of it that begins outside of phrases has
an even number of quotes. -/
theorem count_quote_drop_of_not_straddles {t : Text} {k : Nat} (hk : k ≤ t.length)
    (h : ∀ p ∈ Phrase.find t, ¬ p.Straddles k)
    (hquotes : t.count '"' = 2 * (Phrase.find t).length) : (t.drop k).count '"' % 2 = 0 := by
  obtain ⟨ss, hss, -⟩ := exists_ofText_drop hk h
  have hall := count_char_quote_eq_zero hquotes
  rw [hss, List.count_append] at hall
  have hrest := count_quote_textOf (isReading_ofText (t.drop k))
  rw [textOf_ofText] at hrest
  omega

end Symbol

namespace Request

/-! ## The search terms of a text -/

variable {markers : List Text} {text : Text}

/-- The marker that counts is the first one that occurs, and it is split off where it occurs
first. -/
theorem select?_eq_some_iff {m rest : Text} :
    select? markers text = some (m, rest) ↔
      ∃ front back, markers = front ++ m :: back ∧ (∀ m' ∈ front, ¬ m' <:+: text) ∧
        ∃ before, Text.splitAtFirst? m text = some (before, rest) := by
  rw [select?, List.findSome?_eq_some_iff]
  constructor
  · rintro ⟨front, m', back, hmarkers, hsplit, hfront⟩
    obtain ⟨⟨before, rest'⟩, hbefore, heq⟩ := Option.map_eq_some_iff.1 hsplit
    cases heq
    refine ⟨front, back, hmarkers, ?_, before, hbefore⟩
    intro m' hm'
    exact Text.splitAtFirst?_eq_none_iff.1 (Option.map_eq_none_iff.1 (hfront m' hm'))
  · rintro ⟨front, back, hmarkers, hfront, before, hsplit⟩
    refine ⟨front, m, back, hmarkers, by rw [hsplit]; rfl, ?_⟩
    intro m' hm'
    rw [Text.splitAtFirst?_eq_none_iff.2 (hfront m' hm')]
    rfl

/-- How many characters of a text precede its search terms. -/
def termsStart (markers : List Text) (text : Text) : Nat :=
  match select? markers text with
  | none => 0
  | some (_, rest) => text.length - rest.length

theorem termsStart_le (markers : List Text) (text : Text) :
    termsStart markers text ≤ text.length := by
  unfold termsStart
  split
  · exact Nat.zero_le _
  · exact Nat.sub_le _ _

/-- The search terms begin right behind the marker. -/
theorem exists_eq_append_of_select? {m rest : Text} (h : select? markers text = some (m, rest)) :
    ∃ before, text = before ++ m ++ rest ∧
      termsStart markers text = before.length + m.length := by
  obtain ⟨-, -, -, -, before, hsplit⟩ := select?_eq_some_iff.1 h
  have htext := Text.eq_append_of_splitAtFirst? hsplit
  refine ⟨before, htext, ?_⟩
  rw [termsStart, h]
  simp only
  rw [htext, List.length_append, List.length_append, Nat.add_sub_cancel]

theorem drop_termsStart {m rest : Text} (h : select? markers text = some (m, rest)) :
    text.drop (termsStart markers text) = rest := by
  obtain ⟨before, htext, hstart⟩ := exists_eq_append_of_select? h
  rw [hstart, htext, ← List.length_append, List.drop_left]

/-- What is searched for is what the text has from `termsStart` on, but for blanks. -/
theorem terms_eq_ok {o : Option Text} {ts : Text} (h : terms markers text = .ok (o, ts)) :
    ts = text.drop (termsStart markers text) ∨
      ts = Text.trim (text.drop (termsStart markers text)) := by
  unfold terms at h
  split at h
  · next hnone =>
    cases h
    left
    simp only [termsStart, hnone, List.drop_zero]
  · cases h
  · next hsome =>
    cases h
    right
    rw [drop_termsStart hsome]

/-- The search terms hold the phrases and the quotes that the text has from `termsStart` on, and
spell no word that the text does not spell. -/
theorem texts_of_terms_eq_ok {o : Option Text} {ts : Text} (h : terms markers text = .ok (o, ts)) :
    Phrase.texts ts = Phrase.texts (text.drop (termsStart markers text)) ∧
      ts.count '"' = (text.drop (termsStart markers text)).count '"' ∧ ts <:+: text := by
  have hdrop := (List.drop_suffix (termsStart markers text) text).isInfix
  rcases terms_eq_ok h with hts | hts
  · rw [hts]
    exact ⟨rfl, rfl, hdrop⟩
  · rw [hts]
    exact ⟨Symbol.texts_trim _, Symbol.count_quote_trim _, (Text.trim_isInfix _).trans hdrop⟩

/-! ## The expression of a text -/

variable (hfree : Text.occursIn Slot.mark text = false)

include hfree in
/-- Once there are search terms, there is an expression, unless they have more phrases than can be
numbered. -/
theorem matchExpression_eq {o : Option Text} {ts : Text} (h : terms markers text = .ok (o, ts)) :
    matchExpression markers text =
      if (Phrase.texts (text.drop (termsStart markers text))).length ≤ Slot.capacity then
        .ok (Text.trim (Symbol.textOf (expressionSymbols ts)))
      else .error (.longNumeral (numeralLimit + 1)) := by
  obtain ⟨htexts, -, hin⟩ := texts_of_terms_eq_ok h
  have hfree' : Text.occursIn Slot.mark ts = false := by
    rw [Text.occursIn_eq_false_iff] at hfree ⊢
    intro hmark
    exact hfree (hmark.trans hin)
  rw [matchExpression, h, ← htexts]
  exact expression_eq hfree'

variable {e : Text} (he : matchExpression markers text = .ok e)

include hfree he

/-- An expression is that of the search terms, all of whose phrases and quotes it keeps. -/
theorem texts_matchExpression :
    Phrase.texts e = Phrase.texts (text.drop (termsStart markers text)) ∧
      e.count '"' = (text.drop (termsStart markers text)).count '"' := by
  cases hts : terms markers text with
  | error f =>
    rw [matchExpression, hts] at he
    cases he
  | ok p =>
    obtain ⟨o, ts⟩ := p
    obtain ⟨htexts, hcount, -⟩ := texts_of_terms_eq_ok hts
    rw [matchExpression_eq hfree hts] at he
    split at he
    · cases he
      rw [texts_textOf_expressionSymbols, Symbol.count_quote_trim, count_quote_expressionSymbols]
      exact ⟨htexts, hcount⟩
    · cases he

/-- If the search terms begin inside no phrase, the expression has the phrases from there on. -/
theorem texts_matchExpression_of_not_straddles
    (hwhole : ∀ ph ∈ Phrase.find text, ¬ ph.Straddles (termsStart markers text)) :
    Phrase.texts e =
      ((Phrase.find text).filter fun ph => termsStart markers text ≤ ph.start).map (·.text) := by
  rw [(texts_matchExpression hfree he).1]
  exact Phrase.texts_drop (termsStart_le markers text) hwhole

/-- A phrase that the beginning of the search terms does not straddle stands in the expression, or
else lies before that place, and before the marker if the marker has no quotes. -/
theorem kept_or_dropped
    (hwhole : ∀ ph ∈ Phrase.find text, ¬ ph.Straddles (termsStart markers text))
    {ph : Phrase} (hph : ph ∈ Phrase.find text) :
    (termsStart markers text ≤ ph.start ∧ ph.text <:+: e) ∨
      (ph.stop ≤ termsStart markers text ∧
        ∀ m rest, select? markers text = some (m, rest) → '"' ∉ m →
          ph.stop + m.length + rest.length ≤ text.length) := by
  rcases Phrase.stop_le_or_le_start (hwhole ph hph) with hstop | hstart
  · right
    refine ⟨hstop, ?_⟩
    intro m rest hselect hm
    obtain ⟨before, htext, hk⟩ := exists_eq_append_of_select? hselect
    have hbefore : ph.stop ≤ before.length := by
      apply Phrase.stop_le_of_not_mem_quote (htext ▸ hph) hm
      rw [← hk]
      exact hstop
    rw [htext, List.length_append, List.length_append]
    omega
  · left
    refine ⟨hstart, ?_⟩
    apply Phrase.isInfix_of_mem_texts
    rw [texts_matchExpression_of_not_straddles hfree he hwhole]
    apply List.mem_map_of_mem
    exact List.mem_filter.2 ⟨hph, by simpa using hstart⟩

/-- The quotes of phrases stay even in number as long as no phrase is cut. -/
theorem count_quote_even_iff (hquotes : text.count '"' = 2 * (Phrase.find text).length) :
    e.count '"' % 2 = 0 ↔ ∀ ph ∈ Phrase.find text, ¬ ph.Straddles (termsStart markers text) := by
  rw [(texts_matchExpression hfree he).2]
  constructor
  · intro heven ph hph hstraddles
    have hodd := Symbol.count_quote_drop_of_straddles hph hstraddles hquotes
    rw [heven] at hodd
    cases hodd
  · intro hwhole
    exact Symbol.count_quote_drop_of_not_straddles (termsStart_le markers text) hwhole hquotes

end Request
end PlainSearch
