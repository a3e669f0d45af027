/-
  Proofs/Request/Slot.lean --- filling the slots of a layout.

  WHAT THIS FILE IS FOR.  An expression is laid out with a numbered slot for every
  phrase, and the slots are filled afterwards in one pass over the text, which
  cannot tell the slots that were laid out from characters that happen to spell
  one.  Two facts make the pass safe:

      no slot begins at a character of a layout, whatever stands around it, as
      long as the characters nowhere spell the word that marks slots
      (`digits?_layout_eq_none`);

      the slot of a number reads as that number, whatever follows it
      (`digits?_text_append`).

  HOW MANY SLOTS.  The number of a slot is read like any numeral, so a slot of more
  than `numeralLimit` digits would be refused.  There are as many numbers without
  that many digits as `capacity` says, and a layout with more phrases does not
  come back.  `fill_layout` says exactly that.
-/
import PlainSearch.Request.Expression

set_option autoImplicit false

namespace PlainSearch.Slot

/-- The word that marks slots. -/
def mark : Text := "PHRASE".toList

/-- How many slots have a number that can be read. -/
def capacity : Nat := Nat.pow 10 numeralLimit

theorem front_eq : front = '_' :: '_' :: mark := by decide

theorem mark_eq : mark = ['P', 'H', 'R', 'A', 'S', 'E'] := by decide

theorem back_eq : back = ['_', '_'] := by decide

/-- A number is read back if it is one of those that slots can have. -/
theorem length_ofNat_le_iff_lt_capacity (n : Nat) :
    (Text.ofNat n).length ≤ numeralLimit ↔ n < capacity := by
  have h := Text.length_ofNat_le_iff (n := n) (show 0 < numeralLimit by decide)
  unfold capacity
  exact h

/-- The first number beyond the capacity has one digit too many. -/
theorem length_ofNat_capacity : (Text.ofNat capacity).length = numeralLimit + 1 := by
  have h := Text.length_ofNat_pow (show 0 < numeralLimit by decide)
  unfold capacity
  exact h

/-! ## Reading one slot -/

theorem digits?_text_append (n : Nat) (r : Text) : digits? (text n ++ r) = some (Text.ofNat n) := by
  have hfront : Text.stripPrefix? front (text n ++ r) = some (Text.ofNat n ++ (back ++ r)) := by
    rw [Text.stripPrefix?_eq_some_iff, text, List.append_assoc, List.append_assoc]
  have hdigit : ∀ c ∈ Text.ofNat n, Text.isDigit c = true := by
    intro c hc
    apply Text.isDigit_of_isAsciiDigit
    exact Text.isAsciiDigit_of_mem_ofNat hc
  have hback : Text.isDigit '_' = false := by decide
  have htake : (Text.ofNat n ++ (back ++ r)).takeWhile Text.isDigit = Text.ofNat n := by
    rw [List.takeWhile_append_of_pos hdigit]
    simp [back_eq, hback]
  have hdrop : (Text.ofNat n ++ (back ++ r)).dropWhile Text.isDigit = back ++ r := by
    rw [List.dropWhile_append_of_pos hdigit]
    simp [back_eq, hback]
  have hend : Text.stripPrefix? back (back ++ r) = some r := Text.stripPrefix?_eq_some_iff.2 rfl
  simp [digits?, hfront, htake, hdrop, hend, Text.ofNat_ne_nil n]

/-- Characters that are done with have no effect. -/
theorem fill_eq_drop (phrases : List Text) (skip : Nat) (t : Text) :
    fill phrases skip t = fill phrases 0 (t.drop skip) := by
  induction t generalizing skip with
  | nil => cases skip <;> simp [fill]
  | cons c t ih =>
    cases skip with
    | zero => simp
    | succ k =>
      rw [fill, List.drop_succ_cons]
      exact ih k

/-- A slot at the front is filled by itself. -/
theorem fill_text_append (phrases : List Text) (n : Nat) (r : Text) :
    fill phrases 0 (text n ++ r) =
      match filling phrases (Text.ofNat n) with
      | .error e => .error e
      | .ok w => (fill phrases 0 r).map (w ++ ·) := by
  have hread := digits?_text_append n r
  have hlength : front.length + (Text.ofNat n).length + back.length - 1 + 1 = (text n).length := by
    simp only [text, List.length_append, front_eq, List.length_cons]
    omega
  obtain ⟨t, ht⟩ : ∃ t, text n ++ r = '_' :: t := by
    rw [text, front_eq]
    exact ⟨_, rfl⟩
  have hdrop : t.drop (front.length + (Text.ofNat n).length + back.length - 1) = r := by
    rw [← List.drop_succ_cons (a := '_'), ← ht, hlength, List.drop_left]
  rw [ht] at hread ⊢
  rw [fill, hread]
  cases hw : filling phrases (Text.ofNat n) with
  | error e => simp only [hw]
  | ok w =>
    simp only [hw]
    rw [fill_eq_drop, hdrop]

/-- A slot that was laid out is filled with the phrase of its number. -/
theorem filling_ofNat {phrases : List Text} {n : Nat} {w : Text} (hw : phrases[n]? = some w) :
    filling phrases (Text.ofNat n) =
      if n < capacity then .ok w else .error (.longNumeral (Text.ofNat n).length) := by
  have hlong := length_ofNat_le_iff_lt_capacity n
  by_cases hn : n < capacity
  · have hread : readNumeral (Text.ofNat n) = .ok n :=
      readNumeral_eq_ok_iff.2 ⟨hlong.2 hn, (Text.numeralValue_ofNat n).symm⟩
    simp [filling, hread, hw, hn]
  · have hlt : numeralLimit < (Text.ofNat n).length := by
      rw [← Nat.not_le, hlong]
      exact hn
    simp [filling, readNumeral, hlt, hn]

/-! ## Characters that spell no slot -/

/-- What a layout begins with, up to its first underscore, is spelled by characters. -/
theorem ofPlain_isPrefix_of_layout {w : Text} {n : Nat} {ss : List Symbol} (hw : '_' ∉ w)
    (h : w <+: layout n ss) : Symbol.ofPlain w <+: ss := by
  induction w generalizing ss with
  | nil => exact List.nil_prefix
  | cons a w ih =>
    simp only [List.mem_cons, not_or] at hw
    cases ss with
    | nil => simp [layout] at h
    | cons s ss =>
      cases s with
      | char c =>
        obtain ⟨hac, hrest⟩ := List.cons_prefix_cons.1 h
        subst hac
        exact List.cons_prefix_cons.2 ⟨rfl, ih hw.2 hrest⟩
      | phrase b =>
        -- a layout puts the underscores of a slot where this phrase is
        have hunderscore : '_' = a := by
          rw [layout, text, front_eq] at h
          exact (List.cons_prefix_cons.1 h).1.symm
        exact absurd hunderscore hw.1

/-- No slot begins at a character: what marks a slot would have to be spelled out. -/
theorem digits?_layout_eq_none {n : Nat} {c : Char} {ss : List Symbol}
    (hfree : ¬ Symbol.ofPlain mark <:+: ss) : digits? (c :: layout n ss) = none := by
  have hfront : Text.stripPrefix? front (c :: layout n ss) = none := by
    rw [Option.eq_none_iff_forall_ne_some]
    intro r hr
    have heq := Text.stripPrefix?_eq_some_iff.1 hr
    rw [front_eq] at heq
    obtain ⟨-, hrest⟩ := List.cons.inj heq
    cases ss with
    | nil => simp [layout] at hrest
    | cons s ss =>
      cases s with
      | char c' =>
        obtain ⟨-, hmark⟩ := List.cons.inj hrest
        have hspelled : Symbol.ofPlain mark <+: ss :=
          ofPlain_isPrefix_of_layout (by decide) ⟨r, hmark.symm⟩
        exact hfree (hspelled.isInfix.trans (List.suffix_cons _ _).isInfix)
      | phrase b =>
        have hmark : '_' = 'P' := by
          rw [layout, text, front_eq, mark_eq] at hrest
          exact (List.cons.inj (List.cons.inj hrest).2).1
        exact absurd hmark (by decide)
  simp [digits?, hfront]

/-! ## Filling a layout -/

/-- A layout is filled to the text of its symbols, if it has no more slots than can be
numbered. -/
theorem fill_layout {phrases : List Text} {n : Nat} {ss : List Symbol}
    (hfree : ¬ Symbol.ofPlain mark <:+: ss) (hphrases : phrases.drop n = Symbol.phrases ss)
    (hn : n ≤ capacity) :
    fill phrases 0 (layout n ss) =
      if n + (Symbol.phrases ss).length ≤ capacity then .ok (Symbol.textOf ss)
      else .error (.longNumeral (numeralLimit + 1)) := by
  induction ss generalizing n with
  | nil =>
    have hle : n + (Symbol.phrases []).length ≤ capacity := hn
    rw [if_pos hle]
    rfl
  | cons s ss ih =>
    have hfree' : ¬ Symbol.ofPlain mark <:+: ss := by
      intro h
      apply hfree
      exact h.trans (List.suffix_cons s ss).isInfix
    cases s with
    | char c =>
      have hrest := ih hfree' hphrases hn
      have hnone : digits? (c :: layout n ss) = none := digits?_layout_eq_none hfree'
      simp only [layout, fill, hnone]
      rw [hrest]
      have hcount : Symbol.phrases (.char c :: ss) = Symbol.phrases ss := rfl
      rw [hcount]
      split <;> rfl
    | phrase b =>
      have hcount : Symbol.phrases (.phrase b :: ss)
          = Symbol.text (.phrase b) :: Symbol.phrases ss := rfl
      rw [hcount] at hphrases
      have hget : phrases[n]? = some (Symbol.text (.phrase b)) := by
        have := congrArg List.head? hphrases
        rwa [List.head?_drop] at this
      have htail : phrases.drop (n + 1) = Symbol.phrases ss := by
        rw [← List.tail_drop, hphrases, List.tail_cons]
      rw [layout, fill_text_append, filling_ofNat hget, hcount, List.length_cons]
      by_cases hlt : n < capacity
      · rw [if_pos hlt]
        simp only
        rw [ih hfree' htail hlt]
        by_cases hle : n + 1 + (Symbol.phrases ss).length ≤ capacity
        · rw [if_pos hle, if_pos (by omega)]
          rfl
        · rw [if_neg hle, if_neg (by omega)]
          rfl
      · have heq : n = capacity := by omega
        rw [if_neg hlt, if_neg (by omega), heq, length_ofNat_capacity]

end PlainSearch.Slot
