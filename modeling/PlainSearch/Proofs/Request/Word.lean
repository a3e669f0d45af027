/-
  Proofs/Request/Word.lean --- the whole words of search terms, and which connectives are written.

  WHAT THIS FILE IS FOR.  A connective counts as a whole word: no word character stands on
  either side of it.  This file says which whole words a text has outside of its phrases, without
  mention of the tokens that operators are recognized by:

      `Symbol.WholeWord`   a run of word characters between symbols that are none;
      `Item.ofSymbols`     all of them from left to right, with the phrases and the other
                           characters between them.

  The two agree (`Item.word_mem_ofSymbols_iff`).

  WORDS THAT TOUCH A PHRASE.  To a token, a phrase is part of the word that it touches, since its
  slot is spelled with word characters.  So a connective is written exactly if no phrase stands
  directly before or behind it: in

      "cats"and dogs       "cats" and dogs

  the second has an operator, and the first has none.  Everything else stays: item by item, and
  slashes aside, an expression is what its terms are, but for free connectives and the word near
  (`Item.Becomes`, `Request.connective_remains_iff`).
-/
import Mathlib.Data.List.Forall2
import PlainSearch.Proofs.Request.Expression
import PlainSearch.Proofs.Text.Blank

set_option autoImplicit false

namespace PlainSearch

/-! ## Whole words -/

namespace Symbol

/-- A word character outside of phrases. -/
def isLetter : Symbol → Bool
  | .char c => Text.isWordChar c
  | .phrase _ => false

/-- A phrase. -/
def isPhrase : Symbol → Bool
  | .char _ => false
  | .phrase _ => true

/-- The word `w` stands between the symbols `xs` and `ys`, and is no part of a longer word. -/
structure WholeWord (ss xs : List Symbol) (w : Text) (ys : List Symbol) : Prop where
  eq : ss = xs ++ ofPlain w ++ ys
  ne_nil : w ≠ []
  letters : ∀ c ∈ w, Text.isWordChar c = true
  front : xs.getLast?.any isLetter = false
  back : ys.head?.any isLetter = false

/-- Between the symbols `xs` and `ys` a phrase stands directly on one side. -/
def touches (xs ys : List Symbol) : Bool := xs.getLast?.any isPhrase || ys.head?.any isPhrase

/-- Symbols without phrases are characters. -/
theorem exists_ofPlain {ss : List Symbol} (h : ∀ b, .phrase b ∉ ss) : ∃ t, ss = ofPlain t := by
  induction ss with
  | nil => exact ⟨[], rfl⟩
  | cons s ss ih =>
    obtain ⟨t, rfl⟩ := ih fun b hb => h b (List.mem_cons_of_mem s hb)
    cases s with
    | char c => exact ⟨c :: t, rfl⟩
    | phrase b => exact absurd List.mem_cons_self (h b)

end Symbol

/-- What search terms are made of, blanks apart. -/
inductive Item where
  /-- a whole word outside of phrases, and whether a phrase stands directly before or behind it -/
  | word (w : Text) (touching : Bool)
  | phrase (b : Text)
  | mark (c : Char)
  deriving DecidableEq, Repr

namespace Item

open PlainSearch.Symbol (isLetter isPhrase ofPlain WholeWord touches)

/-- The word `w`, unless it is empty. -/
def close (w : Text) (touching : Bool) : List Item := if w = [] then [] else [.word w touching]

/-- The items of symbols that follow the word characters `w`; a phrase stands directly before these,
or none does. -/
def scan (behind : Bool) (w : Text) : List Symbol → List Item
  | [] => close w behind
  | .phrase b :: ss => close w true ++ .phrase b :: scan true [] ss
  | .char c :: ss =>
    if Text.isWordChar c then scan behind (w ++ [c]) ss
    else close w behind ++ (if Text.isBlank c then [] else [.mark c]) ++ scan false [] ss

/-- The items of symbols. -/
def ofSymbols (ss : List Symbol) : List Item := scan false [] ss

/-- The items of a text. -/
def ofText (t : Text) : List Item := ofSymbols (Symbol.ofText t)

variable {behind t : Bool} {v w : Text} {ss rest xs ys : List Symbol}

@[simp] theorem close_nil (t : Bool) : close [] t = [] := rfl

theorem word_mem_close_iff {t' : Bool} : .word v t ∈ close w t' ↔ v ≠ [] ∧ w = v ∧ t' = t := by
  unfold close
  split
  · next h =>
    subst h
    simp only [List.not_mem_nil, false_iff, not_and]
    exact fun hne heq => absurd heq.symm hne
  · next h =>
    simp only [List.mem_singleton, Item.word.injEq]
    constructor
    · rintro ⟨rfl, rfl⟩
      exact ⟨h, rfl, rfl⟩
    · rintro ⟨-, rfl, rfl⟩
      exact ⟨rfl, rfl⟩

/-- Letters are gathered. -/
theorem scan_ofPlain_append (hv : ∀ c ∈ v, Text.isWordChar c = true) :
    scan behind w (ofPlain v ++ ss) = scan behind (w ++ v) ss := by
  induction v generalizing w with
  | nil => rw [List.append_nil]; rfl
  | cons c v ih =>
    have hcons : ofPlain (c :: v) ++ ss = .char c :: (ofPlain v ++ ss) := rfl
    have hrest : ∀ a ∈ v, Text.isWordChar a = true := fun a ha => hv a (List.mem_cons_of_mem c ha)
    rw [hcons, scan, if_pos (hv c List.mem_cons_self), ih hrest, List.append_assoc]
    rfl

/-- Behind a symbol that is no letter a new word begins. -/
theorem scan_append_of_last (hne : xs ≠ []) (hlast : xs.getLast?.any isLetter = false) :
    scan behind w (xs ++ ss) = scan behind w xs ++ scan (xs.getLast?.any isPhrase) [] ss := by
  induction xs generalizing behind w with
  | nil => exact absurd rfl hne
  | cons s xs ih =>
    by_cases hxs : xs = []
    · subst hxs
      cases s with
      | phrase b => simp [scan, isPhrase]
      | char c =>
        have hc : Text.isWordChar c = false := hlast
        simp [scan, hc, isPhrase]
    · rw [List.getLast?_cons_of_ne_nil hxs] at hlast ⊢
      cases s with
      | phrase b =>
        rw [List.cons_append, scan, scan, ih hxs hlast, List.append_assoc, List.cons_append]
      | char c =>
        rw [List.cons_append, scan, scan]
        split
        · exact ih hxs hlast
        · rw [ih hxs hlast, List.append_assoc, List.append_assoc, List.append_assoc]

/-- A word ends where no letter follows. -/
theorem close_isPrefix_scan (behind : Bool) (w : Text) (hss : ss.head?.any isLetter = false) :
    close w (behind || ss.head?.any isPhrase) <+: scan behind w ss := by
  cases ss with
  | nil =>
    rw [List.head?_nil, Option.any_none, Bool.or_false]
    exact List.prefix_refl _
  | cons s ss =>
    rw [List.head?_cons, Option.any_some]
    cases s with
    | phrase b =>
      rw [isPhrase, Bool.or_true, scan]
      exact List.prefix_append _ _
    | char c =>
      have hc : Text.isWordChar c = false := hss
      rw [isPhrase, Bool.or_false, scan, hc, if_neg Bool.false_ne_true, List.append_assoc]
      exact List.prefix_append _ _

theorem exists_wholeWord_of_mem_scan {front : List Symbol} (hw : ∀ c ∈ w, Text.isWordChar c = true)
    (hfront : front.getLast?.any isLetter = false)
    (h : .word v t ∈ scan (front.getLast?.any isPhrase) w ss) :
    ∃ xs ys, WholeWord (front ++ ofPlain w ++ ss) xs v ys ∧ t = touches xs ys := by
  induction ss generalizing front w with
  | nil =>
    obtain ⟨hne, rfl, rfl⟩ := word_mem_close_iff.1 h
    exact ⟨front, [], ⟨rfl, hne, hw, hfront, rfl⟩, (Bool.or_false _).symm⟩
  | cons s ss ih =>
    -- symbols that are no letters and what is behind them
    have hnext (hs : s.isLetter = false) (h : .word v t ∈ scan s.isPhrase [] ss) :
        ∃ xs ys, WholeWord (front ++ ofPlain w ++ s :: ss) xs v ys ∧ t = touches xs ys := by
      have hlast : (front ++ ofPlain w ++ [s]).getLast? = some s := List.getLast?_concat
      have hsplit : front ++ ofPlain w ++ s :: ss
          = front ++ ofPlain w ++ [s] ++ ofPlain [] ++ ss := by simp [ofPlain]
      rw [hsplit]
      apply ih (by simp) (by rw [hlast]; exact hs)
      rw [hlast]
      exact h
    have hclose (hs : s.isLetter = false) (hmem : .word v t ∈ close w (front.getLast?.any isPhrase
        || s.isPhrase)) :
        ∃ xs ys, WholeWord (front ++ ofPlain w ++ s :: ss) xs v ys ∧ t = touches xs ys := by
      obtain ⟨hne, rfl, ht⟩ := word_mem_close_iff.1 hmem
      exact ⟨front, s :: ss, ⟨rfl, hne, hw, hfront, hs⟩, ht.symm⟩
    cases s with
    | phrase b =>
      rw [scan, List.mem_append, List.mem_cons] at h
      rcases h with h | h | h
      · exact hclose rfl (by rwa [isPhrase, Bool.or_true])
      · cases h
      · exact hnext rfl h
    | char c =>
      rw [scan] at h
      split at h
      · next hc =>
        have hsplit : front ++ ofPlain w ++ .char c :: ss = front ++ ofPlain (w ++ [c]) ++ ss := by
          simp [ofPlain]
        rw [hsplit]
        refine ih ?_ hfront h
        intro a ha
        rcases List.mem_append.1 ha with ha | ha
        · exact hw a ha
        · rwa [List.mem_singleton.1 ha]
      · next hc =>
        have hletter : isLetter (.char c) = false := Bool.eq_false_iff.2 hc
        rw [List.mem_append, List.mem_append] at h
        rcases h with (h | h) | h
        · exact hclose hletter (by rwa [isPhrase, Bool.or_false])
        · split at h
          · cases h
          · cases List.mem_singleton.1 h
        · exact hnext hletter h

/-- The words among the items are the whole words outside of phrases. -/
theorem word_mem_ofSymbols_iff :
    .word w t ∈ ofSymbols ss ↔ ∃ xs ys, WholeWord ss xs w ys ∧ t = touches xs ys := by
  constructor
  · intro h
    have hfront : ([] : List Symbol).getLast?.any isLetter = false := rfl
    have hletters : ∀ c ∈ ([] : Text), Text.isWordChar c = true := by simp
    exact exists_wholeWord_of_mem_scan hletters hfront h
  · rintro ⟨xs, ys, ⟨rfl, hne, hw, hfront, hback⟩, rfl⟩
    have hmem : .word w (touches xs ys) ∈ scan (xs.getLast?.any isPhrase) [] (ofPlain w ++ ys) := by
      rw [scan_ofPlain_append hw, List.nil_append]
      exact (close_isPrefix_scan _ w hback).subset (word_mem_close_iff.2 ⟨hne, rfl, rfl⟩)
    rw [ofSymbols, List.append_assoc]
    by_cases hxs : xs = []
    · subst hxs
      exact hmem
    · rw [scan_append_of_last hxs hfront]
      exact List.mem_append_right _ hmem

/-- Where no wordlike symbol follows, items end. -/
theorem scan_append_of_head (behind : Bool) (w : Text)
    (hrest : ∀ s ∈ rest.head?, s.isWordlike = false) :
    scan behind w (ss ++ rest) = scan behind w ss ++ ofSymbols rest := by
  induction ss generalizing behind w with
  | nil =>
    cases rest with
    | nil => exact (List.append_nil _).symm
    | cons s rest =>
      have hs := hrest s rfl
      cases s with
      | phrase b => cases hs
      | char c =>
        have hc : Text.isWordChar c = false := hs
        simp [ofSymbols, scan, hc]
  | cons s ss ih =>
    cases s with
    | phrase b => simp only [List.cons_append, scan, ih, List.append_assoc]
    | char c =>
      rw [List.cons_append, scan, scan]
      split
      · exact ih behind _
      · rw [ih, List.append_assoc, List.append_assoc, List.append_assoc]

/-- Blanks are no items. -/
theorem ofSymbols_blanks_append {g : Text} (hg : ∀ c ∈ g, Text.isBlank c = true) :
    ofSymbols (ofPlain g ++ rest) = ofSymbols rest := by
  induction g with
  | nil => rfl
  | cons c g ih =>
    have hblank := hg c List.mem_cons_self
    have hcons : ofPlain (c :: g) ++ rest = .char c :: (ofPlain g ++ rest) := rfl
    rw [hcons, ofSymbols, scan, Text.isWordChar_of_isBlank hblank, if_neg Bool.false_ne_true,
      if_pos hblank]
    exact ih fun a ha => hg a (List.mem_cons_of_mem c ha)

theorem ofSymbols_blanks {g : Text} (hg : ∀ c ∈ g, Text.isBlank c = true) :
    ofSymbols (ofPlain g) = [] := by
  have hnil : ofSymbols (ofPlain g ++ []) = ofSymbols [] := ofSymbols_blanks_append hg
  rwa [List.append_nil] at hnil

/-- Trimming takes no items. -/
theorem ofText_trim (t : Text) : ofText (Text.trim t) = ofText t := by
  obtain ⟨g, g', ht, hg, hg'⟩ := Symbol.exists_ofText_eq_append_trim t
  have hback : ∀ s ∈ (ofPlain g').head?, s.isWordlike = false := by
    intro s hs
    obtain ⟨c, hc, rfl⟩ := List.mem_map.1 (List.mem_of_mem_head? hs)
    exact Text.isWordChar_of_isBlank (hg' c hc)
  rw [ofText, ofText, ht, List.append_assoc, ofSymbols_blanks_append hg, ofSymbols, ofSymbols,
    scan_append_of_head false [] hback, ofSymbols_blanks hg', List.append_nil]

/-! ## Items that are written anew -/

/-- What the writing of operators makes of an item. -/
inductive Becomes : Item → Item → Prop where
  /-- a connective that touches no phrase is written in capitals -/
  | connective {p : Text × Text} : p ∈ Token.connectives →
      Becomes (.word p.1 false) (.word p.2 false)
  /-- the word near may be written in capitals, if it touches no phrase -/
  | near {w : Text} : Text.eqIgnoringAsciiCase w "near".toList = true →
      Becomes (.word w false) (.word "NEAR".toList false)
  /-- anything but a connective that touches no phrase may be kept -/
  | keep {x : Item} : (∀ p ∈ Token.connectives, x ≠ .word p.1 false) → Becomes x x

/-- No spelling of a connective is one of near, and none in capitals is one in small letters. -/
theorem connectives_ne : ∀ p ∈ Token.connectives,
    Text.eqIgnoringAsciiCase p.2 "near".toList = false ∧ p.1 ≠ "NEAR".toList ∧
      ∀ q ∈ Token.connectives, q.2 ≠ p.1 := by
  decide

/-- A connective in small letters is left only where it touches a phrase. -/
theorem Becomes.word_connective {x : Item} {p : Text × Text} (hp : p ∈ Token.connectives)
    (h : Becomes x (.word p.1 t)) : x = .word p.1 true ∧ t = true := by
  obtain ⟨-, hnear, hcapital⟩ := connectives_ne p hp
  generalize hy : Item.word p.1 t = y at h
  cases h with
  | connective hq => exact absurd (Item.word.inj hy).1.symm (hcapital _ hq)
  | near _ => exact absurd (Item.word.inj hy).1 hnear
  | keep hfree =>
    have ht : t = true := by
      rw [← Bool.not_eq_false]
      intro ht
      exact hfree p hp (by rw [← hy, ht])
    exact ⟨by rw [← hy, ht], ht⟩

/-- Items but for slashes. -/
def withoutSlashes (is : List Item) : List Item := is.filter (· ≠ .mark '/')

theorem withoutSlashes_append (is js : List Item) :
    withoutSlashes (is ++ js) = withoutSlashes is ++ withoutSlashes js := List.filter_append _ _

theorem withoutSlashes_word_cons (w : Text) (t : Bool) (is : List Item) :
    withoutSlashes (.word w t :: is) = .word w t :: withoutSlashes is := rfl

theorem withoutSlashes_slash_cons (is : List Item) :
    withoutSlashes (.mark '/' :: is) = withoutSlashes is := rfl

theorem word_mem_withoutSlashes_iff {is : List Item} :
    .word w t ∈ withoutSlashes is ↔ .word w t ∈ is := by
  simp [withoutSlashes]

theorem becomes_withoutSlashes {is js : List Item} (h : List.Forall₂ Becomes is js) :
    List.Forall₂ Becomes (withoutSlashes is) (withoutSlashes js) := by
  refine List.rel_filter ?_ h
  intro x y hxy
  cases hxy with
  | connective _ => simp
  | near _ => simp
  | keep _ => rfl

/-- An item is kept, or it is the word near and is written in capitals. -/
def SpelledNear (x y : Item) : Prop :=
  y = x ∨ ∃ w, Text.eqIgnoringAsciiCase w "near".toList = true ∧ x = .word w false ∧
    y = .word "NEAR".toList false

theorem Becomes.trans {x y z : Item} (h : Becomes x y) (h' : SpelledNear y z) : Becomes x z := by
  rcases h' with rfl | ⟨w, hw, rfl, rfl⟩
  · exact h
  · generalize hy : Item.word w false = y at h
    cases h with
    | connective hp =>
      obtain ⟨hne, -, -⟩ := connectives_ne _ hp
      rw [← (Item.word.inj hy).1, hw] at hne
      cases hne
    | near hnear => exact .near hnear
    | keep _ =>
      rw [← hy]
      exact .near hw

theorem forall₂_becomes_trans {is js ks : List Item} (h : List.Forall₂ Becomes is js)
    (h' : List.Forall₂ SpelledNear js ks) : List.Forall₂ Becomes is ks := by
  induction h generalizing ks with
  | nil =>
    cases h'
    exact .nil
  | cons hxy _ ih =>
    cases h' with
    | cons hyz hrest => exact .cons (hxy.trans hyz) (ih hrest)

theorem Becomes.eq_of_touching {y : Item} (h : Becomes (.word w true) y) : y = .word w true := by
  cases h with
  | keep _ => rfl

/-- The connectives in small letters that are left are those that touch a phrase. -/
theorem word_mem_iff_of_becomes {is js : List Item} {p : Text × Text}
    (h : List.Forall₂ Becomes is js) (hp : p ∈ Token.connectives) :
    .word p.1 t ∈ js ↔ t = true ∧ .word p.1 true ∈ is := by
  induction h with
  | nil => simp only [List.not_mem_nil, and_false]
  | @cons x y is js hxy _ ih =>
    rw [List.mem_cons, List.mem_cons, ih]
    constructor
    · rintro (rfl | ⟨ht, hmem⟩)
      · obtain ⟨hx, ht⟩ := hxy.word_connective hp
        exact ⟨ht, .inl hx.symm⟩
      · exact ⟨ht, .inr hmem⟩
    · rintro ⟨rfl, hx | hmem⟩
      · rw [← hx] at hxy
        exact .inl hxy.eq_of_touching.symm
      · exact .inr ⟨rfl, hmem⟩

end Item

namespace Token

open PlainSearch.Symbol (ofPlain)
open Item (Becomes SpelledNear withoutSlashes withoutSlashes_append withoutSlashes_word_cons
  withoutSlashes_slash_cons becomes_withoutSlashes)

/-! ## The items of tokens -/

/-- The items of a token. -/
def items (t : Token) : List Item := Item.ofSymbols t.symbols

variable {ts us : List Token} {ss rest : List Symbol}

theorem ofSymbols_mark_cons {c : Char} (h : IsProper (.mark c)) :
    Item.ofSymbols (.char c :: rest) = .mark c :: Item.ofSymbols rest := by
  rw [Item.ofSymbols, Item.scan, h.1, if_neg Bool.false_ne_true, h.2, if_neg Bool.false_ne_true]
  rfl

theorem items_gap {cs : Text} (h : IsProper (.gap cs)) : (Token.gap cs).items = [] :=
  Item.ofSymbols_blanks fun c hc => (h.2 c hc).2

theorem items_mark {c : Char} (h : IsProper (.mark c)) : (Token.mark c).items = [.mark c] :=
  ofSymbols_mark_cons h

/-- The items of well-formed tokens are those of one token after the other. -/
theorem ofSymbols_symbolsOf_eq_flatMap (h : WellFormed ts) :
    Item.ofSymbols (symbolsOf ts) = ts.flatMap items := by
  induction ts with
  | nil => rfl
  | cons t ts ih =>
    obtain ⟨ht, hhead, hrest⟩ := wellFormed_cons_iff.1 h
    rw [symbolsOf_cons, List.flatMap_cons, ← ih hrest]
    cases t with
    | gap cs =>
      rw [items_gap ht, List.nil_append]
      exact Item.ofSymbols_blanks_append fun c hc => (ht.2 c hc).2
    | mark c =>
      rw [items_mark ht]
      exact ofSymbols_mark_cons ht
    | word ss =>
      apply Item.scan_append_of_head
      intro s hs
      cases ts with
      | nil => cases hs
      | cons u us =>
        -- a wordlike symbol would make a word of the next token
        obtain ⟨hu, -, -⟩ := wellFormed_cons_iff.1 hrest
        rw [symbolsOf_cons, List.head?_append_of_ne_nil _ (symbols_ne_nil hu)] at hs
        rw [Bool.eq_false_iff]
        intro hword
        exact (hhead u rfl).1 ⟨rfl, isWord_of_mem_symbols hu (List.mem_of_mem_head? hs) hword⟩

/-- A word with a phrase in it has no part that touches no phrase. -/
theorem not_mem_scan_of_phrase (behind : Bool) (v w : Text) (hss : ∀ s ∈ ss, s.isWordlike = true)
    (h : behind = true ∨ ∃ b, Symbol.phrase b ∈ ss) : .word v false ∉ Item.scan behind w ss := by
  induction ss generalizing behind w with
  | nil =>
    have hbehind : behind = true := h.resolve_right fun ⟨b, hb⟩ => List.not_mem_nil hb
    rw [Item.scan, Item.word_mem_close_iff, hbehind]
    exact fun hmem => nomatch hmem.2.2
  | cons s ss ih =>
    have hrest : ∀ s ∈ ss, s.isWordlike = true := fun x hx => hss x (List.mem_cons_of_mem s hx)
    cases s with
    | phrase b =>
      rw [Item.scan, List.mem_append, List.mem_cons, Item.word_mem_close_iff]
      rintro (⟨-, -, htouching⟩ | heq | hmem)
      · cases htouching
      · cases heq
      · exact ih true [] hrest (.inl rfl) hmem
    | char c =>
      have hc : Text.isWordChar c = true := hss (.char c) List.mem_cons_self
      rw [Item.scan, if_pos hc]
      apply ih behind _ hrest
      refine h.imp_right fun ⟨b, hb⟩ => ⟨b, ?_⟩
      exact (List.mem_cons.1 hb).resolve_left (fun heq => nomatch heq)

theorem items_word_ofPlain {w : Text} (h : IsProper (.word (ofPlain w))) :
    (Token.word (ofPlain w)).items = [.word w false] := by
  obtain ⟨hne, hletters⟩ := h
  have hw : w ≠ [] := by
    rintro rfl
    exact hne rfl
  have hword : ∀ c ∈ w, Text.isWordChar c = true := fun c hc =>
    hletters (.char c) (List.mem_map_of_mem hc)
  have hscan : Item.scan false [] (ofPlain w ++ []) = Item.scan false w [] :=
    Item.scan_ofPlain_append hword
  rw [List.append_nil] at hscan
  exact hscan.trans (if_neg hw)

/-- A word outside of phrases that touches none is a token by itself. -/
theorem eq_ofPlain_of_word_mem_items {v : Text} (h : IsProper (.word ss))
    (hmem : .word v false ∈ (Token.word ss).items) : ss = ofPlain v := by
  have hplain : ∃ u, ss = ofPlain u := by
    apply Symbol.exists_ofPlain
    intro b hb
    exact not_mem_scan_of_phrase false v [] h.2 (.inr ⟨b, hb⟩) hmem
  obtain ⟨u, rfl⟩ := hplain
  rw [items_word_ofPlain h, List.mem_singleton] at hmem
  rw [(Item.word.inj hmem).1]

/-! ## The items of written operators -/

theorem capitalize_connective : ∀ p ∈ connectives,
    capitalize (.word (ofPlain p.1)) ≠ .word (ofPlain p.1) := by
  decide

/-- Connectives become capitals among the items as among the tokens. -/
theorem becomes_items_capitalize {t : Token} (ht : t.IsProper) :
    List.Forall₂ Becomes t.items (capitalize t).items := by
  rcases capitalize_cases t with hkeep | ⟨p, hp, rfl, hcapital⟩
  · rw [hkeep, List.forall₂_same]
    intro x hx
    apply Becomes.keep
    rintro p hp rfl
    cases t with
    | gap cs => rw [items_gap ht] at hx; cases hx
    | mark c => rw [items_mark ht] at hx; cases List.mem_singleton.1 hx
    | word ss =>
      have hss := eq_ofPlain_of_word_mem_items ht hx
      exact capitalize_connective p hp (hss ▸ hkeep)
  · have hproper := isProper_capitalize ht
    rw [hcapital] at hproper
    rw [hcapital, items_word_ofPlain ht, items_word_ofPlain hproper]
    exact .cons (.connective hp) .nil

theorem becomes_items_map_capitalize (hts : ∀ t ∈ ts, t.IsProper) :
    List.Forall₂ Becomes (ts.flatMap items) ((ts.map capitalize).flatMap items) := by
  induction ts with
  | nil => exact .nil
  | cons t ts ih =>
    rw [List.map_cons, List.flatMap_cons, List.flatMap_cons]
    exact List.rel_append (becomes_items_capitalize (hts t List.mem_cons_self))
      (ih fun u hu => hts u (List.mem_cons_of_mem t hu))

/-- A proximity operator is spelled with a slash, and is otherwise the same items as before. -/
theorem spelledNear_items_of_written (h : Written ts us) (hts : WellFormed ts) :
    List.Forall₂ SpelledNear (withoutSlashes (ts.flatMap items))
      (withoutSlashes (us.flatMap items)) := by
  have hsame (is : List Item) : List.Forall₂ SpelledNear is is :=
    List.forall₂_same.2 fun x _ => .inl rfl
  induction h with
  | nil => exact .nil
  | @keep t ts us _ _ ih =>
    obtain ⟨-, -, hrest⟩ := wellFormed_cons_iff.1 hts
    rw [List.flatMap_cons, List.flatMap_cons, withoutSlashes_append, withoutSlashes_append]
    exact List.rel_append (hsame _) (ih hrest)
  | @near a w n b g g' g'' ts us hnear _ _ ih =>
    obtain ⟨-, hg, hg', -, hg'', hb⟩ := hts.operator
    obtain ⟨-, -, hrest⟩ := wellFormed_cons_iff.1 hb
    have hw : IsProper (.word w) := hts.proper (.word w) (by simp)
    obtain ⟨t, rfl, -, ht⟩ := exists_text_of_isNear hnear
    have hword : SpelledNear (.word t false) (.word "NEAR".toList false) :=
      .inr ⟨t, decide_eq_true ht, rfl, rfl⟩
    have hbefore : withoutSlashes ((.word a :: .gap g :: .word (ofPlain t) :: .gap g' :: .word n
          :: .gap g'' :: .word b :: ts).flatMap items)
        = withoutSlashes (Token.word a).items ++ (.word t false ::
          (withoutSlashes (Token.word n).items ++ (withoutSlashes (Token.word b).items
            ++ withoutSlashes (ts.flatMap items)))) := by
      simp only [List.flatMap_cons, items_gap hg, items_gap hg', items_gap hg'',
        items_word_ofPlain hw, withoutSlashes_append, List.nil_append, List.cons_append,
        withoutSlashes_word_cons]
    have hafter : withoutSlashes ((proximity a n b ++ us).flatMap items)
        = withoutSlashes (Token.word a).items ++ (.word "NEAR".toList false ::
          (withoutSlashes (Token.word n).items ++ (withoutSlashes (Token.word b).items
            ++ withoutSlashes (us.flatMap items)))) := by
      simp only [proximity, List.cons_append, List.nil_append, List.flatMap_cons,
        items_gap isProper_space, items_mark isProper_slash, items_word_ofPlain isProper_near,
        withoutSlashes_append, withoutSlashes_word_cons, withoutSlashes_slash_cons]
    rw [hbefore, hafter]
    exact List.rel_append (hsame _) (.cons hword (List.rel_append (hsame _)
      (List.rel_append (hsame _) (ih hrest))))

/-- What the writing of operators makes of the items of tokens. -/
theorem becomes_items_writeOperators (h : WellFormed ts) :
    List.Forall₂ Becomes (withoutSlashes (ts.flatMap items))
      (withoutSlashes ((writeOperators ts).flatMap items)) := by
  have hcapital := becomes_withoutSlashes (becomes_items_map_capitalize h.proper)
  have hnear := spelledNear_items_of_written (written_writeProximity _)
    (wellFormed_map_capitalize h)
  exact Item.forall₂_becomes_trans hcapital hnear

end Token

namespace Request

open PlainSearch.Symbol (WholeWord touches)

/-- The connectives of search terms are written in capitals, unless they touch a phrase.  Of terms
that do not spell the word that marks slots there is an expression, but for more phrases than can
be numbered.

  * Slashes aside, its words, phrases and other characters are one by one those of the terms.  Of
    the words that touch no phrase, the connectives become capitals and the word near may; all
    else is kept.
  * A connective that is left in small letters, as a whole word outside of phrases, touches a
    phrase.
  * One is left exactly if the terms have one, as a whole word outside of phrases, that touches a
    phrase. -/
theorem connective_remains_iff {terms : Text} (hfree : Text.occursIn Slot.mark terms = false) :
    (∃ e, expression terms = .ok e ∧
      List.Forall₂ Item.Becomes (Item.withoutSlashes (Item.ofText terms))
        (Item.withoutSlashes (Item.ofText e)) ∧
      (∀ p ∈ Token.connectives, ∀ xs ys, WholeWord (Symbol.ofText e) xs p.1 ys →
        touches xs ys = true) ∧
      ∀ p ∈ Token.connectives, (∃ xs ys, WholeWord (Symbol.ofText e) xs p.1 ys) ↔
        ∃ xs ys, WholeWord (Symbol.ofText terms) xs p.1 ys ∧ touches xs ys = true) ∨
    (Slot.capacity < (Phrase.texts terms).length ∧
      expression terms = .error (.longNumeral (numeralLimit + 1))) := by
  have hts := Token.wellFormed_ofSymbols (Symbol.ofText terms)
  have hterms := Token.ofSymbols_symbolsOf_eq_flatMap hts
  rw [Token.symbolsOf_ofSymbols] at hterms
  have he : Item.ofText (Text.trim (Symbol.textOf (expressionSymbols terms)))
      = (Token.writeOperators (Token.ofSymbols (Symbol.ofText terms))).flatMap Token.items := by
    rw [Item.ofText_trim, Item.ofText, isReading_expressionSymbols]
    exact Token.ofSymbols_symbolsOf_eq_flatMap (Token.wellFormed_writeOperators hts)
  have hbecomes := Token.becomes_items_writeOperators hts
  rw [← hterms, ← he] at hbecomes
  have hcases := expression_eq_or hfree
  generalize Text.trim (Symbol.textOf (expressionSymbols terms)) = e at hbecomes hcases
  have hleft {p : Text × Text} (hp : p ∈ Token.connectives) (t : Bool) :
      .word p.1 t ∈ Item.ofText e ↔ t = true ∧ .word p.1 true ∈ Item.ofText terms := by
    have hmem := Item.word_mem_iff_of_becomes (t := t) hbecomes hp
    rwa [Item.word_mem_withoutSlashes_iff, Item.word_mem_withoutSlashes_iff] at hmem
  refine hcases.imp_left fun hexpression => ⟨e, hexpression, hbecomes, ?_, ?_⟩
  · intro p hp xs ys hword
    exact ((hleft hp _).1 (Item.word_mem_ofSymbols_iff.2 ⟨xs, ys, hword, rfl⟩)).1
  · intro p hp
    constructor
    · rintro ⟨xs, ys, hword⟩
      obtain ⟨-, hmem⟩ := (hleft hp _).1 (Item.word_mem_ofSymbols_iff.2 ⟨xs, ys, hword, rfl⟩)
      obtain ⟨xs', ys', hword', htouches⟩ := Item.word_mem_ofSymbols_iff.1 hmem
      exact ⟨xs', ys', hword', htouches.symm⟩
    · rintro ⟨xs, ys, hword, htouches⟩
      have hmem := Item.word_mem_ofSymbols_iff.2 ⟨xs, ys, hword, htouches.symm⟩
      obtain ⟨xs', ys', hword', -⟩ := Item.word_mem_ofSymbols_iff.1 ((hleft hp true).2 ⟨rfl, hmem⟩)
      exact ⟨xs', ys', hword'⟩

/-- A connective right behind a phrase is no operator. -/
theorem connective_remains_of_touching :
    Text.occursIn Slot.mark "\"cats\"and dogs".toList = false ∧
    expression "\"cats\"and dogs".toList = .ok "\"cats\"and dogs".toList ∧
    ∃ xs ys, WholeWord (Symbol.ofText "\"cats\"and dogs".toList) xs "and".toList ys := by
  have hfree : Text.occursIn Slot.mark "\"cats\"and dogs".toList = false := by decide
  have hexpression :
      expression "\"cats\"and dogs".toList = .ok "\"cats\"and dogs".toList := by rfl
  refine ⟨hfree, hexpression, ?_⟩
  rcases connective_remains_iff hfree with ⟨e, he, -, -, hleft⟩ | ⟨hmany, -⟩
  · cases hexpression.symm.trans he
    refine (hleft ("and".toList, "AND".toList) List.mem_cons_self).2
      ⟨[.phrase "cats".toList], Symbol.ofPlain " dogs".toList, ?_, rfl⟩
    exact ⟨by decide, by decide, List.all_eq_true.1 (by decide), rfl, by decide⟩
  · exact absurd hmany (by decide +kernel)

end Request
end PlainSearch
