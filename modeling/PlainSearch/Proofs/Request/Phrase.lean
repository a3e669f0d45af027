/-
  Proofs/Request/Phrase.lean --- the phrases of a text, and the symbols that hold them.

  WHAT THIS FILE IS FOR.  `Request/Phrase.lean` takes a text apart into symbols in
  one pass, with the characters since the last quote in hand.  What a phrase is can
  be said without that pass:

      a phrase stands at the front of a text if the text begins with a quote, one
      or more characters other than the quote, and a quote;

      the phrases of a text are found from left to right, each search beginning
      where the phrase found last ends.

  `Phrase.find` is that search, with the place of every phrase.  The two sides
  meet in `find_eq_placed`: the symbols of a text hold its phrases, all of them,
  in order, each at its place.

  READINGS.  A list of symbols is a reading if it is what its own text is taken
  apart into.  The symbols of a text are one (`isReading_ofText`), and so is every
  end of one (`IsReading.of_append`): where a phrase ends, reading starts anew.
-/
import PlainSearch.Request.Phrase
import PlainSearch.Text.Blank

set_option autoImplicit false

namespace PlainSearch

/-- A phrase as it stands in a text. -/
structure Phrase where
  /-- how many characters of the text precede it -/
  start : Nat
  text : Text
  deriving DecidableEq, Repr

namespace Phrase

/-! ## Phrases, from left to right -/

/-- How many characters of the text end with a phrase: those before it and its own. -/
def stop (p : Phrase) : Nat := p.start + p.text.length

/-- What stands between the quotes of a phrase at the front of a text, and what follows the
phrase. -/
def at? : Text → Option (Text × Text)
  | [] => none
  | c :: t =>
    match t.dropWhile (· ≠ '"') with
    | [] => none
    | _ :: r =>
      if c = '"' ∧ t.takeWhile (· ≠ '"') ≠ [] then some (t.takeWhile (· ≠ '"'), r) else none

/-- The phrases of a text that `n` characters precede; the first `skip` characters are done
with. -/
def findFrom : Nat → Nat → Text → List Phrase
  | _, _, [] => []
  | n, skip + 1, _ :: t => findFrom (n + 1) skip t
  | n, 0, c :: t =>
    match at? (c :: t) with
    | some (b, _) => ⟨n, '"' :: b ++ ['"']⟩ :: findFrom (n + 1) (b.length + 1) t
    | none => findFrom (n + 1) 0 t

/-- The phrases of a text, from left to right. -/
def find (t : Text) : List Phrase := findFrom 0 0 t

/-- The phrases of a text without their places. -/
def texts (t : Text) : List Text := (find t).map (·.text)

theorem forall_ne_quote {b : Text} (h : '"' ∉ b) : ∀ a ∈ b, decide (a ≠ '"') = true := by
  intro a ha
  have hne : a ≠ '"' := by
    intro hq
    apply h
    rw [← hq]
    exact ha
  simpa using hne

theorem takeWhile_append_quote {b : Text} (r : Text) (h : '"' ∉ b) :
    (b ++ '"' :: r).takeWhile (· ≠ '"') = b := by
  rw [List.takeWhile_append_of_pos (forall_ne_quote h)]
  simp

theorem dropWhile_append_quote {b : Text} (r : Text) (h : '"' ∉ b) :
    (b ++ '"' :: r).dropWhile (· ≠ '"') = '"' :: r := by
  rw [List.dropWhile_append_of_pos (forall_ne_quote h)]
  simp

theorem not_mem_takeWhile_quote (t : Text) : '"' ∉ t.takeWhile (· ≠ '"') := by
  intro h
  have := List.all_eq_true.1 List.all_takeWhile _ h
  simp at this

theorem dropWhile_quote_eq_cons {t r : Text} {c : Char}
    (h : t.dropWhile (· ≠ '"') = c :: r) : c = '"' := by
  have := List.head?_dropWhile_not (fun a : Char => decide (a ≠ '"')) t
  rw [h] at this
  simpa using this

/-- What a phrase at the front of a text is. -/
theorem at?_eq_some_iff {t b r : Text} :
    at? t = some (b, r) ↔ t = '"' :: b ++ '"' :: r ∧ b ≠ [] ∧ '"' ∉ b := by
  constructor
  · intro h
    cases t with
    | nil => cases h
    | cons c t =>
      simp only [at?] at h
      split at h
      · cases h
      · next d r' hdrop =>
        split at h
        · next hc =>
          simp only [Option.some.injEq, Prod.mk.injEq] at h
          obtain ⟨rfl, rfl⟩ := h
          have hd := dropWhile_quote_eq_cons hdrop
          have ht := List.takeWhile_append_dropWhile (p := fun a : Char => decide (a ≠ '"')) (l := t)
          rw [hdrop, hd] at ht
          refine ⟨?_, hc.2, not_mem_takeWhile_quote t⟩
          rw [List.cons_append, ht, hc.1]
        · cases h
  · rintro ⟨rfl, hne, hq⟩
    simp only [List.cons_append, at?]
    rw [dropWhile_append_quote r hq, takeWhile_append_quote r hq]
    simp [hne]

theorem at?_cons_of_ne {c : Char} (t : Text) (h : c ≠ '"') : at? (c :: t) = none := by
  rw [Option.eq_none_iff_forall_ne_some]
  rintro ⟨b, r⟩ heq
  obtain ⟨ht, -, -⟩ := at?_eq_some_iff.1 heq
  simp only [List.cons_append, List.cons.injEq] at ht
  exact h ht.1

/-- A quote opens nothing if another one stands right behind it, or none at all. -/
theorem at?_quote_eq_none_iff {t : Text} :
    at? ('"' :: t) = none ↔ t.head? = some '"' ∨ '"' ∉ t := by
  constructor
  · intro h
    by_cases hq : '"' ∈ t
    · left
      obtain ⟨b, r, rfl, hb⟩ := List.eq_append_cons_of_mem hq
      cases b with
      | nil => rfl
      | cons a b =>
        have hat : at? ('"' :: (a :: b) ++ '"' :: r) = some (a :: b, r) :=
          at?_eq_some_iff.2 ⟨rfl, List.cons_ne_nil a b, hb⟩
        rw [List.cons_append, h] at hat
        cases hat
    · exact .inr hq
  · intro h
    rw [Option.eq_none_iff_forall_ne_some]
    rintro ⟨b, r⟩ heq
    obtain ⟨ht, hne, hb⟩ := at?_eq_some_iff.1 heq
    simp only [List.cons_append, List.cons.injEq, true_and] at ht
    subst ht
    rcases h with h | h
    · cases b with
      | nil => exact hne rfl
      | cons a b =>
        simp only [List.cons_append, List.head?_cons, Option.some.injEq] at h
        simp [h] at hb
    · exact h (by simp)

/-- Characters that are done with only move the place. -/
theorem findFrom_eq_drop (n skip : Nat) (t : Text) :
    findFrom n skip t = findFrom (n + skip) 0 (t.drop skip) := by
  induction skip generalizing n t with
  | zero => rfl
  | succ k ih =>
    cases t with
    | nil => rfl
    | cons c t =>
      rw [findFrom, ih, List.drop_succ_cons, Nat.add_assoc, Nat.add_comm 1]

end Phrase

namespace Symbol

/-! ## The symbols of a text, one at a time -/

/-- Once a quote is open, the text up to the next quote is what it may enclose. -/
theorem scan_some (b t : Text) :
    scan (some b) t =
      match t.dropWhile (· ≠ '"') with
      | [] => .char '"' :: ofPlain (b ++ t)
      | _ :: r =>
        if b ++ t.takeWhile (· ≠ '"') = [] then .char '"' :: scan (some []) r
        else .phrase (b ++ t.takeWhile (· ≠ '"')) :: scan none r := by
  induction t generalizing b with
  | nil => simp [scan]
  | cons c t ih =>
    by_cases hc : c = '"'
    · simp [scan, hc]
    · simp only [scan, hc, if_false, ih]
      simp [hc]

theorem ofPlain_eq_scan {t : Text} (h : '"' ∉ t) : ofPlain t = scan none t := by
  induction t with
  | nil => rfl
  | cons c t ih =>
    simp only [List.mem_cons, not_or] at h
    simp only [scan, if_neg (Ne.symm h.1)]
    rw [← ih h.2]
    rfl

/-- A text begins with a phrase or else with a character outside the phrases. -/
theorem ofText_cons (c : Char) (t : Text) :
    ofText (c :: t) =
      match Phrase.at? (c :: t) with
      | some (b, r) => .phrase b :: ofText r
      | none => .char c :: ofText t := by
  by_cases hc : c = '"'
  · subst hc
    have hscan : ofText ('"' :: t) = scan (some []) t := rfl
    have ht := List.takeWhile_append_dropWhile (p := fun a : Char => decide (a ≠ '"')) (l := t)
    rw [hscan, scan_some]
    simp only [Phrase.at?, List.nil_append, true_and]
    cases hdrop : t.dropWhile (· ≠ '"') with
    | nil =>
      have hq : '"' ∉ t := by
        rw [hdrop, List.append_nil] at ht
        rw [← ht]
        exact Phrase.not_mem_takeWhile_quote t
      simp only [ofText, ofPlain_eq_scan hq]
    | cons d r =>
      have hd := Phrase.dropWhile_quote_eq_cons hdrop
      rw [hdrop, hd] at ht
      by_cases hb : t.takeWhile (· ≠ '"') = []
      · simp only [hb, if_true, ne_eq, not_true_eq_false, if_false]
        rw [hb] at ht
        rw [← ht]
        simp [ofText, scan]
      · simp only [hb, if_false, ne_eq, not_false_eq_true, if_true]
        rfl
  · rw [Phrase.at?_cons_of_ne t hc]
    simp [ofText, scan, hc]

/-- The phrases among symbols that `n` characters precede, each at its place. -/
def placed : Nat → List Symbol → List Phrase
  | _, [] => []
  | n, .char _ :: ss => placed (n + 1) ss
  | n, .phrase b :: ss => ⟨n, text (.phrase b)⟩ :: placed (n + (text (.phrase b)).length) ss

theorem map_text_placed (n : Nat) (ss : List Symbol) :
    (placed n ss).map (·.text) = phrases ss := by
  induction ss generalizing n with
  | nil => rfl
  | cons s ss ih =>
    cases s with
    | char c =>
      rw [placed, ih]
      rfl
    | phrase b =>
      rw [placed, List.map_cons, ih]
      rfl

theorem placed_append (n : Nat) (xs ys : List Symbol) :
    placed n (xs ++ ys) = placed n xs ++ placed (n + (textOf xs).length) ys := by
  induction xs generalizing n with
  | nil => rfl
  | cons s xs ih =>
    cases s with
    | char c =>
      rw [List.cons_append, placed, placed, ih]
      simp [text, Nat.add_assoc, Nat.add_comm 1]
    | phrase b =>
      rw [List.cons_append, placed, placed, ih]
      simp [Nat.add_assoc]

/-- The search from left to right finds the phrases among the symbols of a text. -/
theorem findFrom_eq_placed (n : Nat) (t : Text) :
    Phrase.findFrom n 0 t = placed n (ofText t) := by
  match t with
  | [] => rfl
  | c :: t =>
    rw [Phrase.findFrom, ofText_cons]
    cases hat : Phrase.at? (c :: t) with
    | none =>
      simp only [placed]
      exact findFrom_eq_placed (n + 1) t
    | some p =>
      obtain ⟨b, r⟩ := p
      obtain ⟨ht, -, -⟩ := Phrase.at?_eq_some_iff.1 hat
      simp only [List.cons_append, List.cons.injEq] at ht
      have hdrop : t.drop (b.length + 1) = r := by rw [ht.2]; simp
      simp only [placed]
      rw [Phrase.findFrom_eq_drop, hdrop, findFrom_eq_placed _ r]
      simp [text, Nat.add_assoc, Nat.add_comm]
  termination_by t.length
  decreasing_by
    · simp
    · have := congrArg List.length ht
      simp at this
      simp
      omega

theorem find_eq_placed (t : Text) : Phrase.find t = placed 0 (ofText t) :=
  findFrom_eq_placed 0 t

theorem texts_eq_phrases (t : Text) : Phrase.texts t = phrases (ofText t) := by
  rw [Phrase.texts, find_eq_placed, map_text_placed]

/-! ## Readings -/

/-- The symbols are what their own text is taken apart into. -/
def IsReading (ss : List Symbol) : Prop := ofText (textOf ss) = ss

theorem isReading_ofText (t : Text) : IsReading (ofText t) := by
  rw [IsReading, textOf_ofText]

theorem isReading_nil : IsReading [] := rfl

theorem isReading_cons_char_iff {c : Char} {ss : List Symbol} :
    IsReading (.char c :: ss) ↔ Phrase.at? (c :: textOf ss) = none ∧ IsReading ss := by
  have htext : textOf (.char c :: ss) = c :: textOf ss := rfl
  rw [IsReading, htext, ofText_cons]
  cases Phrase.at? (c :: textOf ss) with
  | none => simp [IsReading]
  | some p => simp

theorem isReading_cons_phrase_iff {b : Text} {ss : List Symbol} :
    IsReading (.phrase b :: ss) ↔ (b ≠ [] ∧ '"' ∉ b) ∧ IsReading ss := by
  have htext : textOf (.phrase b :: ss) = '"' :: (b ++ '"' :: textOf ss) := by simp [text]
  rw [IsReading, htext, ofText_cons]
  constructor
  · intro h
    cases hat : Phrase.at? ('"' :: (b ++ '"' :: textOf ss)) with
    | none => simp [hat] at h
    | some p =>
      obtain ⟨b', r⟩ := p
      simp only [hat, List.cons.injEq, Symbol.phrase.injEq] at h
      obtain ⟨rfl, hr⟩ := h
      obtain ⟨ht, hb⟩ := Phrase.at?_eq_some_iff.1 hat
      simp only [List.cons_append, List.cons.injEq, true_and, List.append_cancel_left_eq] at ht
      exact ⟨hb, by rw [IsReading, ht, hr]⟩
  · rintro ⟨hb, hss⟩
    have hat : Phrase.at? ('"' :: (b ++ '"' :: textOf ss)) = some (b, textOf ss) :=
      Phrase.at?_eq_some_iff.2 ⟨rfl, hb⟩
    rw [hat]
    simp only [List.cons.injEq, true_and]
    exact hss

theorem IsReading.ofPlain_append {t : Text} {ss : List Symbol} (hss : IsReading ss)
    (h : '"' ∉ t) : IsReading (ofPlain t ++ ss) := by
  induction t with
  | nil => exact hss
  | cons c t ih =>
    simp only [List.mem_cons, not_or] at h
    exact isReading_cons_char_iff.2 ⟨Phrase.at?_cons_of_ne _ (Ne.symm h.1), ih h.2⟩

/-- What follows any symbol of a reading is read alike by itself. -/
theorem IsReading.of_append {xs ss : List Symbol} (h : IsReading (xs ++ ss)) : IsReading ss := by
  induction xs with
  | nil => exact h
  | cons s xs ih =>
    cases s with
    | char c => exact ih (isReading_cons_char_iff.1 h).2
    | phrase b => exact ih (isReading_cons_phrase_iff.1 h).2

/-- What precedes any symbol of a reading is read alike by itself. -/
theorem IsReading.of_append_left {xs ss : List Symbol} (h : IsReading (xs ++ ss)) :
    IsReading xs := by
  induction xs with
  | nil => exact isReading_nil
  | cons s xs ih =>
    rw [List.cons_append] at h
    cases s with
    | phrase b =>
      obtain ⟨hb, hrest⟩ := isReading_cons_phrase_iff.1 h
      exact isReading_cons_phrase_iff.2 ⟨hb, ih hrest⟩
    | char c =>
      obtain ⟨hat, hrest⟩ := isReading_cons_char_iff.1 h
      refine isReading_cons_char_iff.2 ⟨?_, ih hrest⟩
      by_cases hc : c = '"'
      · subst hc
        rw [Phrase.at?_quote_eq_none_iff, textOf_append] at hat
        rw [Phrase.at?_quote_eq_none_iff]
        rcases hat with hhead | hnot
        · -- the next character is a quote too, or there is none
          cases htext : textOf xs with
          | nil => exact .inr List.not_mem_nil
          | cons a t =>
            rw [htext] at hhead
            exact .inl hhead
        · exact .inr fun hmem => hnot (List.mem_append_left _ hmem)
      · exact Phrase.at?_cons_of_ne _ hc

/-! ## Quotes -/

/-- The quotes of a text that belong to no phrase are characters by themselves. -/
theorem count_quote_textOf {ss : List Symbol} (h : IsReading ss) :
    (textOf ss).count '"' = 2 * (phrases ss).length + ss.count (.char '"') := by
  induction ss with
  | nil => rfl
  | cons s ss ih =>
    cases s with
    | char c =>
      have := ih (isReading_cons_char_iff.1 h).2
      rw [textOf_cons, List.count_append, this, List.count_cons]
      by_cases hc : c = '"'
      · simp [phrases, text, hc]
        omega
      · simp [phrases, text, hc]
    | phrase b =>
      obtain ⟨⟨-, hq⟩, hss⟩ := isReading_cons_phrase_iff.1 h
      rw [textOf_cons, List.count_append, ih hss, List.count_cons]
      have hb : b.count '"' = 0 := List.count_eq_zero.2 hq
      simp [phrases, text, hb]
      omega

/-- Symbols without quotes are characters. -/
theorem ofPlain_textOf {ss : List Symbol} (h : '"' ∉ textOf ss) : ofPlain (textOf ss) = ss := by
  induction ss with
  | nil => rfl
  | cons s ss ih =>
    rw [textOf_cons, List.mem_append, not_or] at h
    cases s with
    | char c => exact congrArg (Symbol.char c :: ·) (ih h.2)
    | phrase b => exact absurd List.mem_cons_self h.1

/-! ## White space at the ends -/

theorem phrases_ofPlain (t : Text) : phrases (ofPlain t) = [] := by
  induction t with
  | nil => rfl
  | cons c t ih => exact ih

theorem phrases_append (ss ss' : List Symbol) : phrases (ss ++ ss') = phrases ss ++ phrases ss' :=
  List.filterMap_append

theorem ofText_append_of_not_mem {g : Text} (t : Text) (h : '"' ∉ g) :
    ofText (g ++ t) = ofPlain g ++ ofText t := by
  induction g with
  | nil => rfl
  | cons c g ih =>
    simp only [List.mem_cons, not_or] at h
    rw [List.cons_append, ofText_cons, Phrase.at?_cons_of_ne _ (Ne.symm h.1), ih h.2]
    rfl

/-- Characters other than quotes are characters behind any text: they complete no phrase. -/
theorem scan_append_of_not_mem {g : Text} (o : Option Text) (t : Text) (h : '"' ∉ g) :
    scan o (t ++ g) = scan o t ++ ofPlain g := by
  induction t generalizing o with
  | nil =>
    cases o with
    | none => exact (ofPlain_eq_scan h).symm
    | some b =>
      have hdrop : g.dropWhile (· ≠ '"') = [] := by
        have hall := @List.dropWhile_append_of_pos Char (fun a => decide (a ≠ '"')) g []
          (Phrase.forall_ne_quote h)
        rwa [List.append_nil] at hall
      rw [List.nil_append, scan_some, hdrop]
      simp [scan, ofPlain]
  | cons c t ih =>
    cases o with
    | none =>
      by_cases hc : c = '"'
      · simp only [List.cons_append, scan, hc, if_true]
        exact ih (some [])
      · simp only [List.cons_append, scan, hc, if_false, ih none]
    | some b =>
      by_cases hc : c = '"'
      · by_cases hb : b = []
        · simp only [List.cons_append, scan, hc, hb, if_true, ih (some [])]
        · simp only [List.cons_append, scan, hc, hb, if_true, if_false, ih none]
      · simp only [List.cons_append, scan, hc, if_false]
        exact ih (some (b ++ [c]))

theorem not_mem_quote_of_isBlank {g : Text} (h : ∀ c ∈ g, Text.isBlank c = true) : '"' ∉ g := by
  intro hq
  have := h '"' hq
  simp [show Text.isBlank '"' = false by decide] at this

/-- Trimming a text takes blanks from the ends of its symbols. -/
theorem exists_ofText_eq_append_trim (t : Text) :
    ∃ g g', ofText t = ofPlain g ++ ofText (Text.trim t) ++ ofPlain g' ∧
      (∀ c ∈ g, Text.isBlank c = true) ∧ ∀ c ∈ g', Text.isBlank c = true := by
  obtain ⟨g, g', ht, hg, hg'⟩ := Text.exists_eq_append_trimBy Text.isBlank t
  refine ⟨g, g', ?_, hg, hg'⟩
  calc ofText t
      = ofText (g ++ (Text.trim t ++ g')) := by rw [← List.append_assoc]; exact congrArg _ ht
    _ = ofPlain g ++ ofText (Text.trim t ++ g') :=
        ofText_append_of_not_mem _ (not_mem_quote_of_isBlank hg)
    _ = ofPlain g ++ ofText (Text.trim t) ++ ofPlain g' := by
        rw [ofText, scan_append_of_not_mem none _ (not_mem_quote_of_isBlank hg'),
          List.append_assoc]
        rfl

/-- Trimming a text takes no phrase from it. -/
theorem texts_trim (t : Text) : Phrase.texts (Text.trim t) = Phrase.texts t := by
  obtain ⟨g, g', ht, -, -⟩ := exists_ofText_eq_append_trim t
  rw [texts_eq_phrases, texts_eq_phrases, ht, phrases_append, phrases_append, phrases_ofPlain,
    phrases_ofPlain, List.nil_append, List.append_nil]

theorem count_quote_trim (t : Text) : (Text.trim t).count '"' = t.count '"' := by
  obtain ⟨g, g', ht, hg, hg'⟩ := Text.exists_eq_append_trimBy Text.isBlank t
  have hcount := congrArg (List.count '"') ht
  rw [List.count_append, List.count_append,
    List.count_eq_zero.2 (not_mem_quote_of_isBlank hg),
    List.count_eq_zero.2 (not_mem_quote_of_isBlank hg')] at hcount
  rw [hcount, Nat.zero_add, Nat.add_zero]
  rfl

end Symbol
end PlainSearch
