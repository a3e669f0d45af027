/-
  Proofs/Text/Blank.lean --- gaps, and what is never blank.

  WHAT THIS FILE IS FOR.  A gap is one or more blanks, and `gap?` reads the one in front of a
  text up to where it ends (`gap?_eq_some_iff`).  It ends in front of any word: the classes of
  blanks and of word characters have nothing in common (`isBlank_of_isWordChar`), which the
  tables of both bear out range by range.
-/
import PlainSearch.Proofs.Text.Digit
import PlainSearch.Proofs.Text.LowerCase
import PlainSearch.Text.Word

set_option autoImplicit false

namespace PlainSearch.Text

/-! ## Words -/

/-- Numbers in ranges that no range of blanks meets are no blanks. -/
theorem inRanges_blankRanges_of_apart {ranges : List (Nat × Nat)} {n : Nat}
    (hapart : ∀ r ∈ ranges, ∀ b ∈ blankRanges, r.2 < b.1 ∨ b.2 < r.1)
    (h : inRanges ranges n = true) : inRanges blankRanges n = false := by
  obtain ⟨r, hr, hlower, hupper⟩ := inRanges_iff.1 h
  rw [Bool.eq_false_iff, Ne, inRanges_iff]
  rintro ⟨b, hb, hlower', hupper'⟩
  rcases hapart r hr b hb with h | h <;> omega

theorem letterRanges_apart :
    ∀ r ∈ letterRanges, ∀ b ∈ blankRanges, r.2 < b.1 ∨ b.2 < r.1 := by decide +kernel

theorem digitZeros_apart :
    ∀ r ∈ digitZeros.map fun z => (z, z + 9), ∀ b ∈ blankRanges, r.2 < b.1 ∨ b.2 < r.1 := by
  decide +kernel

theorem isBlank_of_isDigit {c : Char} (h : isDigit c = true) : isBlank c = false := by
  simp only [isDigit, digitValue?, Option.isSome_map, List.find?_isSome] at h
  obtain ⟨z, hz, hrange⟩ := h
  simp only [Bool.and_eq_true, decide_eq_true_eq] at hrange
  rw [isBlank_eq]
  exact inRanges_blankRanges_of_apart digitZeros_apart
    (inRanges_iff.2 ⟨_, List.mem_map_of_mem hz, hrange⟩)

/-- No character that continues a word is a blank. -/
theorem isBlank_of_isWordChar {c : Char} (h : isWordChar c = true) : isBlank c = false := by
  unfold isWordChar at h
  split at h
  · rw [isBlank_eq]
    exact inRanges_blankRanges_of_apart (by decide) h
  · rcases Bool.or_eq_true_iff.1 h with h | h
    · exact isBlank_of_isDigit h
    · rw [isBlank_eq]
      exact inRanges_blankRanges_of_apart letterRanges_apart h

theorem isWordChar_of_isBlank {c : Char} (h : isBlank c = true) : isWordChar c = false := by
  rw [Bool.eq_false_iff]
  intro hword
  rw [isBlank_of_isWordChar hword] at h
  cases h

/-! ## Gaps -/

/-- One or more blanks. -/
def IsGap (g : Text) : Prop := g ≠ [] ∧ ∀ c ∈ g, isBlank c = true

variable {g r t : Text}

/-- Blanks are read up to where they end. -/
theorem gap?_eq_some_iff :
    gap? t = some (g, r) ↔ t = g ++ r ∧ IsGap g ∧ ∀ c ∈ r.head?, isBlank c = false := by
  constructor
  · intro h
    have ht := eq_append_of_gap? h
    unfold gap? at h
    split at h
    · cases h
    · next hne =>
      cases h
      have hblank := List.all_eq_true.1 (List.all_takeWhile (p := isBlank) (l := t))
      refine ⟨ht, ⟨fun hnil => hne hnil, hblank⟩, fun c hc => ?_⟩
      have hstop := List.head?_dropWhile_not isBlank t
      rw [Option.mem_def.1 hc] at hstop
      simpa using hstop
  · rintro ⟨rfl, ⟨hne, hblank⟩, hr⟩
    unfold gap?
    rw [takeWhile_run hblank hr, dropWhile_run hblank hr]
    split
    · exact absurd rfl hne
    · rfl

end PlainSearch.Text
