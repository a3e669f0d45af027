/-
  Proofs/Text/LowerCase.lean --- what lower-casing leaves as it is.

  WHAT THIS FILE IS FOR.  A capital is a character with a small letter of its own: one
  of A to Z, U+0130, or a capital of the table.  Said so, without lower-casing a text,
  it is the form that lower-casing ends in:

      no character of a text in lower case is a capital (`isCapital_of_mem_lower`);
      a text without capitals stays as it is             (`lower_eq_self`).

  The table bears this out run by run: the small letters of one run are apart from the
  capitals of every other, or stand between them where capitals and small letters take
  turns (`misses_of_mem`).

  THE ENDS OF WORDS.  Whether a capital sigma ends a word depends on the characters
  around it.  The case of a letter of A to Z is no part of that (`lower_map`), and a
  character of ASCII has the same small letter wherever it stands (`lowerAt_of_ascii`).
-/
import PlainSearch.Text.Blank
import PlainSearch.Text.LowerCase

set_option autoImplicit false

namespace PlainSearch.Text

/-- The character has a small letter of its own. -/
def isCapital (c : Char) : Bool :=
  isAsciiCapital c || c = '\u0130' || caseRuns.any (·.covers c.toNat)

theorem isCapital_eq_false_iff {c : Char} :
    isCapital c = false ↔
      isAsciiCapital c = false ∧ c ≠ '\u0130' ∧ ∀ r ∈ caseRuns, r.covers c.toNat = false := by
  simp [isCapital, and_assoc]

/-! ## The table of capitals -/

namespace CaseRun

/-- The small letters of one run are no capitals of another: they are apart from them, or take
turns with them. -/
def misses (r s : CaseRun) : Bool :=
  Nat.blt s.last r.image || Nat.blt (r.lower r.last) s.first ||
    (s.step == 2 && (r.step == 2 || r.first == r.last) && (r.image + s.first) % 2 == 1)

/-- The capitals of a run and their small letters are apart from a range of numbers. -/
def isApart (r : CaseRun) (b : Nat × Nat) : Bool :=
  (Nat.blt r.last b.1 || Nat.blt b.2 r.first) &&
    (Nat.blt (r.lower r.last) b.1 || Nat.blt b.2 r.image)

theorem covers_iff {r : CaseRun} {n : Nat} :
    r.covers n = true ↔ r.first ≤ n ∧ n ≤ r.last ∧ (n - r.first) % r.step = 0 := by
  simp [covers, and_assoc]

theorem covers_lower_of_misses {r s : CaseRun} {n : Nat} (hmisses : r.misses s = true)
    (hn : r.covers n = true) : s.covers (r.lower n) = false := by
  rw [Bool.eq_false_iff, ne_eq, covers_iff]
  obtain ⟨hfirst, hlast, hstep⟩ := covers_iff.1 hn
  simp only [misses, Bool.or_eq_true, Nat.blt_eq, Bool.and_eq_true, beq_iff_eq] at hmisses
  simp only [lower] at hmisses ⊢
  rintro ⟨hbelow, habove, hturn⟩
  rcases hmisses with (hapart | hapart) | ⟨⟨htwo, hturns | hsingle⟩, hodd⟩
  · omega
  · omega
  · rw [htwo] at hturn
    rw [hturns] at hstep
    omega
  · rw [htwo] at hturn
    omega

end CaseRun

theorem misses_of_mem {r s : CaseRun} (hr : r ∈ caseRuns) (hs : s ∈ caseRuns) :
    r.misses s = true := by
  have hall : (caseRuns.all fun r => caseRuns.all r.misses) = true := by decide +kernel
  exact List.all_eq_true.1 (List.all_eq_true.1 hall r hr) s hs

/-- The capitals of the table lie beyond ASCII. -/
theorem caseRuns_first_ge : ∀ r ∈ caseRuns, 0x80 ≤ r.first := by decide +kernel

/-- U+0130 is no small letter. -/
theorem caseRuns_image_ne : ∀ r ∈ caseRuns, r.lower r.last < 0x130 ∨ 0x130 < r.image := by
  decide +kernel

theorem covers_eq_false_of_lt {n : Nat} (hn : n < 0x80) {r : CaseRun} (hr : r ∈ caseRuns) :
    r.covers n = false := by
  rw [Bool.eq_false_iff, ne_eq, CaseRun.covers_iff]
  have hfirst := caseRuns_first_ge r hr
  omega

theorem isCapital_of_lt {c : Char} (hc : c.toNat < 0x80) (h : isAsciiCapital c = false) :
    isCapital c = false := by
  refine isCapital_eq_false_iff.2 ⟨h, ?_, fun r hr => covers_eq_false_of_lt hc hr⟩
  rintro rfl
  exact absurd hc (by decide)

/-! ## Texts without capitals -/

theorem lowerChar_of_isCapital_eq_false {c : Char} (h : isCapital c = false) :
    lowerChar c = c := by
  obtain ⟨hascii, -, hruns⟩ := isCapital_eq_false_iff.1 h
  unfold lowerChar
  split
  · rw [if_neg]
    simpa [isAsciiCapital] using hascii
  · have hnone : caseRuns.find? (·.covers c.toNat) = none := by
      rw [List.find?_eq_none]
      intro r hr
      rw [hruns r hr]
      exact Bool.false_ne_true
    rw [hnone]

/-- The small letter of a capital is no capital. -/
theorem isCapital_lowerChar {c : Char} (hc : c ≠ '\u0130') : isCapital (lowerChar c) = false := by
  by_cases hlt : c.toNat < 0x80
  · have hascii := isAsciiCapital_lowerChar c
    refine isCapital_of_lt ?_ hascii
    unfold lowerChar
    rw [if_pos hlt]
    split
    · rcases toNat_ofNat_eq_or (c.toNat + 0x20) with hn | hn <;> omega
    · exact hlt
  · refine isCapital_eq_false_iff.2 ⟨isAsciiCapital_lowerChar c, ?_⟩
    unfold lowerChar
    rw [if_neg hlt]
    split
    · next r hr =>
      have hmem := List.mem_of_find?_eq_some hr
      have hcovers : r.covers c.toNat = true := by simpa using List.find?_some hr
      -- a number that is no code point stands for the null character, which is no capital
      rcases toNat_ofNat_eq_or (r.lower c.toNat) with hn | hn
      · refine ⟨?_, fun s hs => ?_⟩
        · intro heq
          rw [heq] at hn
          have hne := caseRuns_image_ne r hmem
          have hlast := (CaseRun.covers_iff.1 hcovers).2.1
          simp only [CaseRun.lower] at hn hne
          have hcode : ('\u0130' : Char).toNat = 0x130 := rfl
          omega
        · rw [hn]
          exact CaseRun.covers_lower_of_misses (misses_of_mem hmem hs) hcovers
      · refine ⟨?_, fun s hs => ?_⟩
        · intro heq
          rw [heq] at hn
          exact absurd hn (by decide)
        · rw [hn]
          exact covers_eq_false_of_lt (by decide) hs
    · next hnone =>
      refine ⟨hc, fun r hr => ?_⟩
      simpa using List.find?_eq_none.1 hnone r hr

theorem lowerAt_of_isCapital_eq_false {c : Char} (h : isCapital c = false) (before after : Text) :
    lowerAt before c after = [c] := by
  have hdot : c ≠ '\u0130' := (isCapital_eq_false_iff.1 h).2.1
  have hsigma : c ≠ '\u03a3' := by
    rintro rfl
    exact absurd h (by decide +kernel)
  rw [lowerAt, if_neg hdot, if_neg hsigma, lowerChar_of_isCapital_eq_false h]

theorem isCapital_of_mem_lowerAt {before after : Text} {a c : Char}
    (h : a ∈ lowerAt before c after) : isCapital a = false := by
  unfold lowerAt at h
  split at h
  · simp only [List.mem_cons, List.not_mem_nil, or_false] at h
    rcases h with rfl | rfl
    · decide +kernel
    · decide +kernel
  · next hdot =>
    split at h
    · split at h
      · rw [List.mem_singleton.1 h]
        decide +kernel
      · rw [List.mem_singleton.1 h]
        decide +kernel
    · rw [List.mem_singleton.1 h]
      exact isCapital_lowerChar hdot

theorem isCapital_of_mem_lowerAfter {before t : Text} {a : Char} (h : a ∈ lowerAfter before t) :
    isCapital a = false := by
  induction t generalizing before with
  | nil => cases h
  | cons c t ih =>
    rw [lowerAfter, List.mem_append] at h
    rcases h with h | h
    · exact isCapital_of_mem_lowerAt h
    · exact ih h

theorem lowerAfter_eq_self {t : Text} (h : ∀ c ∈ t, isCapital c = false) (before : Text) :
    lowerAfter before t = t := by
  induction t generalizing before with
  | nil => rfl
  | cons c t ih =>
    rw [lowerAfter, lowerAt_of_isCapital_eq_false (h c List.mem_cons_self),
      ih fun a ha => h a (List.mem_cons_of_mem c ha)]
    rfl

/-- No capital is left in lower case. -/
theorem isCapital_of_mem_lower {t : Text} {a : Char} (h : a ∈ lower t) : isCapital a = false :=
  isCapital_of_mem_lowerAfter h

/-- A text without capitals is in lower case. -/
theorem lower_eq_self {t : Text} (h : ∀ c ∈ t, isCapital c = false) : lower t = t :=
  lowerAfter_eq_self h []

/-! ## Blanks -/

/-- The blanks by their numbers. -/
def blankRanges : List (Nat × Nat) :=
  [(0x9, 0xd), (0x1c, 0x1f), (0x20, 0x20), (0x85, 0x85), (0xa0, 0xa0), (0x1680, 0x1680),
    (0x2000, 0x200a), (0x2028, 0x2029), (0x202f, 0x202f), (0x205f, 0x205f), (0x3000, 0x3000)]

theorem isBlank_eq (c : Char) : isBlank c = inRanges blankRanges c.toNat := by
  rw [Bool.eq_iff_iff]
  simp only [isBlank, isSpace, blankRanges, inRanges, List.any_cons, List.any_nil, Bool.or_false,
    Bool.or_eq_true, Bool.and_eq_true, decide_eq_true_eq]
  omega

/-- Neither the capitals of the table nor their small letters are blanks. -/
theorem isApart_of_mem_blankRanges {r : CaseRun} (hr : r ∈ caseRuns) {b : Nat × Nat}
    (hb : b ∈ blankRanges) : r.isApart b = true := by
  have hall : (caseRuns.all fun r => blankRanges.all r.isApart) = true := by decide +kernel
  exact List.all_eq_true.1 (List.all_eq_true.1 hall r hr) b hb

theorem isBlank_ofNat_eq_false {n : Nat} (h : inRanges blankRanges n = false) :
    isBlank (Char.ofNat n) = false := by
  rw [isBlank_eq]
  rcases toNat_ofNat_eq_or n with hn | hn
  · rw [hn, h]
  · rw [hn]
    decide

/-- A character and its small letter are both blank or both not. -/
theorem isBlank_lowerChar (c : Char) : isBlank (lowerChar c) = isBlank c := by
  have hletter {m n : Nat} (hm : inRanges blankRanges m = false)
      (hn : inRanges blankRanges n = false) (hc : c.toNat = n) :
      isBlank (Char.ofNat m) = isBlank c := by
    rw [isBlank_ofNat_eq_false hm, isBlank_eq, hc, hn]
  unfold lowerChar
  split
  · split
    · next hc =>
      refine hletter ?_ ?_ rfl
      · simp [blankRanges, inRanges]
        omega
      · simp [blankRanges, inRanges]
        omega
    · rfl
  · split
    · next r hr =>
      have hcovers : r.covers c.toNat = true := by simpa using List.find?_some hr
      obtain ⟨hfirst, hlast, -⟩ := CaseRun.covers_iff.1 hcovers
      have hapart {b : Nat × Nat} (hb : b ∈ blankRanges) :
          (r.last < b.1 ∨ b.2 < r.first) ∧
            (r.image + (r.last - r.first) < b.1 ∨ b.2 < r.image) := by
        simpa [CaseRun.isApart, CaseRun.lower] using
          isApart_of_mem_blankRanges (List.mem_of_find?_eq_some hr) hb
      refine hletter ?_ ?_ rfl
      · rw [Bool.eq_false_iff, ne_eq, inRanges_iff]
        rintro ⟨b, hb, hbelow, habove⟩
        have himage := (hapart hb).2
        simp only [CaseRun.lower] at hbelow habove
        omega
      · rw [Bool.eq_false_iff, ne_eq, inRanges_iff]
        rintro ⟨b, hb, hbelow, habove⟩
        have hcapital := (hapart hb).1
        omega
    · rfl

theorem isBlank_of_mem_lowerAt {before after : Text} {a c : Char}
    (h : a ∈ lowerAt before c after) : isBlank a = isBlank c := by
  unfold lowerAt at h
  split at h
  · next hdot =>
    subst hdot
    simp only [List.mem_cons, List.not_mem_nil, or_false] at h
    rcases h with rfl | rfl <;> decide
  · split at h
    · next hsigma =>
      subst hsigma
      split at h
      · rw [List.mem_singleton.1 h]
        decide
      · rw [List.mem_singleton.1 h]
        decide
    · rw [List.mem_singleton.1 h]
      exact isBlank_lowerChar c

theorem lowerAt_ne_nil (before : Text) (c : Char) (after : Text) : lowerAt before c after ≠ [] := by
  unfold lowerAt
  split
  · simp
  · split
    · split <;> simp
    · simp

/-! ## Letters of ASCII -/

/-- What does not tell a letter of A to Z from its small letter does not tell a character from
what it is in lower case, ASCII alone considered. -/
theorem apply_asciiLowerChar {α : Type} (f : Char → α)
    (h : ∀ n ≤ 0x5a, 0x41 ≤ n → f (Char.ofNat (n + 0x20)) = f (Char.ofNat n)) (c : Char) :
    f (asciiLowerChar c) = f c := by
  unfold asciiLowerChar
  split
  · next hc =>
    have hletter := h c.toNat hc.2 hc.1
    rwa [Char.ofNat_toNat] at hletter
  · rfl

theorem isBlank_asciiLowerChar (c : Char) : isBlank (asciiLowerChar c) = isBlank c :=
  apply_asciiLowerChar isBlank (by decide) c

theorem isCased_asciiLowerChar (c : Char) : isCased (asciiLowerChar c) = isCased c :=
  apply_asciiLowerChar isCased (by decide +kernel) c

/-- The letters of ASCII are not among the characters that are passed over. -/
theorem caseIgnorableRanges_apart : ∀ r ∈ caseIgnorableRanges,
    (r.2 < 0x41 ∨ 0x5a < r.1) ∧ (r.2 < 0x61 ∨ 0x7a < r.1) := by decide +kernel

theorem isCaseIgnorable_asciiLowerChar (c : Char) :
    isCaseIgnorable (asciiLowerChar c) = isCaseIgnorable c := by
  have hletter {n : Nat} (hn : 0x41 ≤ n ∧ n ≤ 0x5a ∨ 0x61 ≤ n ∧ n ≤ 0x7a) :
      isCaseIgnorable (Char.ofNat n) = false := by
    have hvalid : n.isValidChar := .inl (by omega)
    have hnumber : (Char.ofNat n).toNat = n := by
      rw [Char.ofNat, dif_pos hvalid]
      rfl
    rw [isCaseIgnorable, hnumber, Bool.eq_false_iff, ne_eq, inRanges_iff]
    rintro ⟨r, hr, hbelow, habove⟩
    have hapart := caseIgnorableRanges_apart r hr
    omega
  refine apply_asciiLowerChar isCaseIgnorable ?_ c
  intro n hle hge
  rw [hletter (.inl ⟨hge, hle⟩), hletter (.inr ⟨by omega, by omega⟩)]

theorem nearestIsCased_map (t : Text) :
    nearestIsCased (t.map asciiLowerChar) = nearestIsCased t := by
  have hignorable : isCaseIgnorable ∘ asciiLowerChar = isCaseIgnorable :=
    funext isCaseIgnorable_asciiLowerChar
  rw [nearestIsCased, List.dropWhile_map, hignorable, List.head?_map, Option.any_map]
  congr 1
  exact funext isCased_asciiLowerChar

theorem lowerChar_asciiLowerChar (c : Char) : lowerChar (asciiLowerChar c) = lowerChar c :=
  apply_asciiLowerChar lowerChar (by decide) c

theorem asciiLowerChar_eq_iff {a : Char} (ha : isAsciiCapital a = false)
    (hsmall : ∀ n ≤ 0x5a, 0x41 ≤ n → Char.ofNat (n + 0x20) ≠ a) (c : Char) :
    asciiLowerChar c = a ↔ c = a := by
  unfold asciiLowerChar
  split
  · next hc =>
    refine iff_of_false (hsmall c.toNat hc.2 hc.1) ?_
    rintro rfl
    simp [isAsciiCapital, hc] at ha
  · rfl

/-- The case of the letters A to Z, its own and that of its neighbours, is nothing to the lower
case of a character. -/
theorem lowerAt_map (before : Text) (c : Char) (after : Text) :
    lowerAt (before.map asciiLowerChar) (asciiLowerChar c) (after.map asciiLowerChar)
      = lowerAt before c after := by
  have hdot := asciiLowerChar_eq_iff (a := '\u0130') (by decide) (by decide) c
  have hsigma := asciiLowerChar_eq_iff (a := '\u03a3') (by decide) (by decide) c
  simp only [lowerAt, hdot, hsigma, nearestIsCased_map, lowerChar_asciiLowerChar]

theorem lowerAfter_map (before t : Text) :
    lowerAfter (before.map asciiLowerChar) (t.map asciiLowerChar) = lowerAfter before t := by
  induction t generalizing before with
  | nil => rfl
  | cons c t ih =>
    rw [List.map_cons, lowerAfter, lowerAfter, lowerAt_map, ← List.map_cons, ih]

theorem lower_map (t : Text) : lower (t.map asciiLowerChar) = lower t := lowerAfter_map [] t

/-- Texts that differ in the case of the letters A to Z have the same lower case. -/
theorem lower_eq_of_eqIgnoringAsciiCase {s t : Text} (h : eqIgnoringAsciiCase s t = true) :
    lower s = lower t := by
  rw [← lower_map s, of_decide_eq_true h, lower_map]

/-! ## Texts in lower case that are ASCII -/

/-- If one character comes of a character and it is of ASCII, it comes of it everywhere. -/
theorem lowerAt_of_ascii {before after : Text} {c : Char}
    (h : ∀ a ∈ lowerAt before c after, a.toNat < 0x80) (before' after' : Text) :
    lowerAt before' c after' = [lowerChar c] := by
  unfold lowerAt at h ⊢
  split at h
  · exact absurd (h '\u0307' (by simp)) (by decide)
  · next hdot =>
    split at h
    · split at h
      · exact absurd (h _ List.mem_cons_self) (by decide)
      · exact absurd (h _ List.mem_cons_self) (by decide)
    · next hsigma => rw [if_neg hdot, if_neg hsigma]

end PlainSearch.Text
