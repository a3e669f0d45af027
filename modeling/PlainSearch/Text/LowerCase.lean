/-
  Text/LowerCase.lean --- lower-casing a text.

  WHAT THIS FILE IS FOR.  Requests are compared in lower case.  The mapping is
  Unicode's full one (version 14.0), which differs from a character-by-character
  map in two places:

      U+0130 (capital I with dot)   becomes two characters, i and U+0307
      U+03A3 (capital sigma)        becomes the final sigma at the end of a word,
                                    the ordinary small sigma elsewhere

  A capital sigma ends a word when a letter with case stands before it and none
  stands after it, marks and the like passed over on both sides.
-/
import PlainSearch.Text.CaseTable

set_option autoImplicit false

namespace PlainSearch.Text

/-- The character is passed over when the neighbouring letter is looked for. -/
def isCaseIgnorable (c : Char) : Bool := inRanges caseIgnorableRanges c.toNat

/-- The character has case. -/
def isCased (c : Char) : Bool := inRanges casedRanges c.toNat

/-- The lower case of a single character whose mapping depends on no neighbour. -/
def lowerChar (c : Char) : Char :=
  if c.toNat < 0x80 then
    if 0x41 ≤ c.toNat ∧ c.toNat ≤ 0x5a then Char.ofNat (c.toNat + 0x20) else c
  else match caseRuns.find? (·.covers c.toNat) with
    | some r => Char.ofNat (r.lower c.toNat)
    | none => c

/-- The letter nearest to a place, read away from it, has case. -/
def nearestIsCased (t : Text) : Bool := (t.dropWhile isCaseIgnorable).head?.any isCased

/-- The lower case of the character `c` between the text `before`, nearest character first, and
the text `after`. -/
def lowerAt (before : Text) (c : Char) (after : Text) : Text :=
  if c = '\u0130' then ['i', '\u0307']
  else if c = '\u03a3' then
    if nearestIsCased before && !nearestIsCased after then ['\u03c2'] else ['\u03c3']
  else [lowerChar c]

/-- The lower case of a text that follows the text `before`, nearest character first. -/
def lowerAfter : Text → Text → Text
  | _, [] => []
  | before, c :: t => lowerAt before c t ++ lowerAfter (c :: before) t

/-- The lower case of a text. -/
def lower (t : Text) : Text := lowerAfter [] t

/-- One of the letters A to Z. -/
def isAsciiCapital (c : Char) : Bool := 0x41 ≤ c.toNat && c.toNat ≤ 0x5a

/-- A number that is no code point stands for the null character. -/
theorem toNat_ofNat_eq_or (n : Nat) : (Char.ofNat n).toNat = n ∨ (Char.ofNat n).toNat = 0 := by
  by_cases h : n.isValidChar
  · left
    rw [Char.ofNat, dif_pos h]
    rfl
  · right
    rw [Char.ofNat, dif_neg h]
    rfl

/-- The small letters of capitals beyond ASCII lie beyond A to Z. -/
theorem caseRuns_image_gt : ∀ r ∈ caseRuns, 0x5a < r.image := by decide +kernel

theorem isAsciiCapital_ofNat_eq_false {n : Nat} (h : 0x5a < n) :
    isAsciiCapital (Char.ofNat n) = false := by
  rw [isAsciiCapital, Bool.and_eq_false_iff, decide_eq_false_iff_not, decide_eq_false_iff_not]
  rcases toNat_ofNat_eq_or n with hn | hn
  · rw [hn]
    omega
  · rw [hn]
    omega

theorem isAsciiCapital_lowerChar (c : Char) : isAsciiCapital (lowerChar c) = false := by
  unfold lowerChar
  split
  · split
    · exact isAsciiCapital_ofNat_eq_false (by omega)
    · next hc =>
      rw [isAsciiCapital, Bool.and_eq_false_iff, decide_eq_false_iff_not, decide_eq_false_iff_not]
      omega
  · split
    · next r hr =>
      have himage := caseRuns_image_gt r (List.mem_of_find?_eq_some hr)
      exact isAsciiCapital_ofNat_eq_false (Nat.lt_of_lt_of_le himage (Nat.le_add_right _ _))
    · rw [isAsciiCapital, Bool.and_eq_false_iff, decide_eq_false_iff_not, decide_eq_false_iff_not]
      omega

/-- No letter of A to Z is left in lower case. -/
theorem isAsciiCapital_of_mem_lowerAfter {before t : Text} {c : Char}
    (h : c ∈ lowerAfter before t) : isAsciiCapital c = false := by
  induction t generalizing before with
  | nil => cases h
  | cons a t ih =>
    rw [lowerAfter, List.mem_append] at h
    rcases h with h | h
    · unfold lowerAt at h
      split at h
      · simp only [List.mem_cons, List.not_mem_nil, or_false] at h
        rcases h with rfl | rfl
        · decide
        · decide
      · split at h
        · split at h
          · rw [List.mem_singleton.1 h]
            decide
          · rw [List.mem_singleton.1 h]
            decide
        · rw [List.mem_singleton.1 h]
          exact isAsciiCapital_lowerChar a
    · exact ih h

/-- The ASCII capitals in lower case; every other character as it is. -/
def asciiLowerChar (c : Char) : Char :=
  if 0x41 ≤ c.toNat ∧ c.toNat ≤ 0x5a then Char.ofNat (c.toNat + 0x20) else c

/-- Equality of texts up to the case of ASCII letters. -/
def eqIgnoringAsciiCase (s t : Text) : Bool := s.map asciiLowerChar = t.map asciiLowerChar

end PlainSearch.Text
