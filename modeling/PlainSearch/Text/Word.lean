/-
  Text/Word.lean --- the characters words are made of.

  WHAT THIS FILE IS FOR.  Keywords of a request count only as whole words, so it
  matters which characters continue a word: letters and numerals of every script
  and the underscore.  Combining marks and quotation marks do not.
-/
import PlainSearch.Text.Digit
import PlainSearch.Text.WordTable

set_option autoImplicit false

namespace PlainSearch.Text

/-- A letter or digit of the ASCII range, or the underscore. -/
def isAsciiWordChar (c : Char) : Bool :=
  inRanges [(0x30, 0x39), (0x41, 0x5a), (0x5f, 0x5f), (0x61, 0x7a)] c.toNat

/-- A character that continues a word. -/
def isWordChar (c : Char) : Bool :=
  if c.toNat < 0x80 then isAsciiWordChar c
  else isDigit c || inRanges letterRanges c.toNat

/-- Every digit continues a word. -/
theorem isWordChar_of_isDigit {c : Char} (h : isDigit c = true) : isWordChar c = true := by
  unfold isWordChar
  split
  · next hc =>
    simp only [isDigit, digitValue?, Option.isSome_map, List.find?_isSome] at h
    obtain ⟨z, hz, hz'⟩ := h
    simp only [Bool.and_eq_true, decide_eq_true_eq] at hz'
    have low : ∀ z ∈ digitZeros, z < 0x80 → z = 0x30 := by decide
    have := low z hz (by omega)
    subst this
    simp only [isAsciiWordChar, inRanges_iff]
    exact ⟨(0x30, 0x39), by simp, by omega, by omega⟩
  · simp [h]

/-- A word may begin here: no word character stands in front. -/
def atWordStart (before : Option Char) : Bool := !before.any isWordChar

/-- A word may end here: no word character follows. -/
def atWordEnd (t : Text) : Bool := !t.head?.any isWordChar

end PlainSearch.Text
