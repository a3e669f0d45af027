/-
  Proofs/Request/Ends.lean --- the gaps at the ends of tokens.

  WHAT THIS FILE IS FOR.  An expression is trimmed last of all, when its tokens are a text
  again.  Trimming takes whole tokens: blanks stand in gaps only, since no word and no mark
  has one.  So the tokens of a trimmed text are those of the text without the gaps at the two
  ends (`Token.exists_gaps_around_trim`).
-/
import PlainSearch.Proofs.Request.Phrase
import PlainSearch.Proofs.Request.Token
import PlainSearch.Proofs.Text.Blank
import PlainSearch.Proofs.Text.Trim

set_option autoImplicit false

namespace PlainSearch

/-! ## Ends without blanks -/

namespace Text

/-- A text that is not empty and has no blank at either end. -/
def IsFirm (t : Text) : Prop := t ≠ [] ∧ IsTrimmed isBlank t

/-- Texts one behind the other are trimmed if the first and the last of them are firm. -/
theorem isTrimmed_flatMap {α : Type} {f : α → Text} {xs : List α}
    (hhead : ∀ x ∈ xs.head?, IsFirm (f x)) (hlast : ∀ x ∈ xs.getLast?, IsFirm (f x)) :
    IsTrimmed isBlank (xs.flatMap f) := by
  constructor
  · cases xs with
    | nil => exact fun c hc => by cases hc
    | cons x xs =>
      obtain ⟨hne, htrimmed⟩ := hhead x rfl
      rw [List.flatMap_cons, List.head?_append_of_ne_nil _ hne]
      exact htrimmed.head
  · rcases List.eq_nil_or_concat' xs with rfl | ⟨xs, x, rfl⟩
    · exact fun c hc => by cases hc
    · obtain ⟨hne, htrimmed⟩ := hlast x (by simp)
      rw [List.flatMap_append, List.flatMap_singleton, List.getLast?_append_of_ne_nil _ hne]
      exact htrimmed.last

theorem isFirm_singleton {c : Char} (h : isBlank c = false) : IsFirm [c] := by
  refine ⟨List.cons_ne_nil c [], ?_, ?_⟩ <;>
  · intro a ha
    cases ha
    exact h

end Text

open Text (IsFirm)

theorem Symbol.isFirm_text {s : Symbol} (h : s.isWordlike = true) : IsFirm s.text := by
  cases s with
  | char c => exact Text.isFirm_singleton (Text.isBlank_of_isWordChar h)
  | phrase b =>
    refine ⟨List.cons_ne_nil _ _, ?_, ?_⟩
    · intro a ha
      cases ha
      decide
    · intro a ha
      rw [Symbol.text, List.getLast?_append_of_ne_nil _ (List.cons_ne_nil _ _)] at ha
      cases ha
      decide

namespace Token

/-- A token that is no gap has no blanks at its ends. -/
theorem isFirm_of_isGap_eq_false {t : Token} (ht : t.IsProper) (h : t.isGap = false) :
    IsFirm (Symbol.textOf t.symbols) := by
  cases t with
  | gap cs => cases h
  | mark c => exact Text.isFirm_singleton ht.2
  | word ss =>
    obtain ⟨hne, hss⟩ := ht
    refine ⟨?_, Text.isTrimmed_flatMap ?_ ?_⟩
    · obtain ⟨s, ss, rfl⟩ := List.exists_cons_of_ne_nil hne
      exact List.append_ne_nil_of_left_ne_nil (Symbol.isFirm_text (hss s List.mem_cons_self)).1 _
    · exact fun s hs => Symbol.isFirm_text (hss s (List.mem_of_mem_head? hs))
    · exact fun s hs => Symbol.isFirm_text (hss s (List.mem_of_mem_getLast? hs))

theorem textOf_symbolsOf (ts : List Token) :
    Symbol.textOf (symbolsOf ts) = ts.flatMap fun t => Symbol.textOf t.symbols :=
  List.flatMap_assoc

/-- The text of gaps is blank. -/
theorem isBlank_of_mem_textOf_gaps {ts : List Token} (hts : ∀ t ∈ ts, t.IsProper)
    (hgaps : ∀ t ∈ ts, t.isGap = true) :
    ∀ c ∈ Symbol.textOf (symbolsOf ts), Text.isBlank c = true := by
  intro c hc
  rw [textOf_symbolsOf, List.mem_flatMap] at hc
  obtain ⟨t, ht, hc⟩ := hc
  cases t with
  | gap cs =>
    rw [symbols, Symbol.textOf_ofPlain] at hc
    exact ((hts _ ht).2 c hc).2
  | word ss => cases hgaps _ ht
  | mark c => cases hgaps _ ht

/-- The tokens of a text. -/
def ofText (t : Text) : List Token := ofSymbols (Symbol.ofText t)

theorem WellFormed.of_isInfix {ts us : List Token} (h : WellFormed ts) (hus : us <:+: ts) :
    WellFormed us :=
  ⟨fun t ht => h.proper t (hus.subset ht), h.apart.infix hus⟩

/-- Tokens with the gaps at their ends set apart. -/
theorem exists_gaps_around (ts : List Token) :
    ∃ front mid back, ts = front ++ mid ++ back ∧ (∀ t ∈ front, t.isGap = true) ∧
      (∀ t ∈ back, t.isGap = true) ∧ (∀ t ∈ mid.head?, t.isGap = false) ∧
      ∀ t ∈ mid.getLast?, t.isGap = false := by
  refine ⟨ts.takeWhile isGap, (ts.dropWhile isGap).rdropWhile isGap,
    (ts.dropWhile isGap).rtakeWhile isGap, ?_, ?_, ?_, ?_, ?_⟩
  · rw [List.append_assoc, List.rdropWhile_append_rtakeWhile, List.takeWhile_append_dropWhile]
  · exact fun t ht => List.all_eq_true.1 List.all_takeWhile t ht
  · exact fun t ht => List.mem_rtakeWhile_imp ht
  · intro t ht
    obtain ⟨cut, hcut⟩ := List.rdropWhile_prefix isGap (l := ts.dropWhile isGap)
    have hfirst := List.head?_dropWhile_not isGap ts
    rw [← hcut, List.head?_append, Option.mem_def.1 ht] at hfirst
    simpa using hfirst
  · intro t ht
    obtain ⟨hne, rfl⟩ := List.mem_getLast?_eq_getLast ht
    exact Bool.eq_false_iff.2 (List.rdropWhile_last_not isGap _ hne)

/-- Trimming the text of tokens takes the gaps at their ends. -/
theorem exists_gaps_around_trim {ts : List Token} (hts : WellFormed ts)
    (hread : Symbol.IsReading (symbolsOf ts)) :
    ∃ front back, ts = front ++ ofText (Text.trim (Symbol.textOf (symbolsOf ts))) ++ back ∧
      ∀ t ∈ front ++ back, t.isGap = true := by
  obtain ⟨front, mid, back, rfl, hfront, hback, hhead, hlast⟩ := exists_gaps_around ts
  have hmid : WellFormed mid := hts.of_isInfix ⟨front, back, rfl⟩
  have hmidread : Symbol.IsReading (symbolsOf mid) := by
    rw [symbolsOf_append, symbolsOf_append] at hread
    exact (Symbol.IsReading.of_append_left hread).of_append
  have htrimmed : Text.IsTrimmed Text.isBlank (Symbol.textOf (symbolsOf mid)) := by
    rw [textOf_symbolsOf]
    refine Text.isTrimmed_flatMap (fun t ht => ?_) fun t ht => ?_
    · exact isFirm_of_isGap_eq_false (hmid.proper t (List.mem_of_mem_head? ht)) (hhead t ht)
    · exact isFirm_of_isGap_eq_false (hmid.proper t (List.mem_of_mem_getLast? ht)) (hlast t ht)
  have htext : Text.trim (Symbol.textOf (symbolsOf (front ++ mid ++ back)))
      = Symbol.textOf (symbolsOf mid) := by
    have hblank {us : List Token} (hus : us <:+: front ++ mid ++ back)
        (hgaps : ∀ t ∈ us, t.isGap = true) :=
      isBlank_of_mem_textOf_gaps (fun t ht => hts.proper t (hus.subset ht)) hgaps
    rw [symbolsOf_append, symbolsOf_append, Symbol.textOf_append, Symbol.textOf_append, Text.trim,
      Text.trimBy_append_append (hblank ⟨[], mid ++ back, by simp⟩ hfront)
        (hblank ⟨front ++ mid, [], by simp⟩ hback), Text.trimBy_eq_self htrimmed]
  refine ⟨front, back, ?_, ?_⟩
  · rw [htext, ofText, hmidread, ofSymbols_symbolsOf hmid]
  · intro t ht
    exact (List.mem_append.1 ht).elim (hfront t) (hback t)

end Token
end PlainSearch
