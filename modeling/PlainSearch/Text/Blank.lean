/-
  Text/Blank.lean --- white space, and trimming it.

  WHAT THIS FILE IS FOR.  Two classes of white space occur in requests and
  settings.  The Unicode property White_Space has twenty-five characters; it is
  what may stand around a number.  A blank of a request is one of these or one of
  the four information separators U+001C to U+001F, which also end a word there.
  Neither class holds U+200B, U+FEFF or U+180E.
-/
import PlainSearch.Text.Basic

set_option autoImplicit false

namespace PlainSearch.Text

/-- The characters with the Unicode property White_Space: tab to carriage return, space,
next line, no-break space, the Ogham space mark, the spaces U+2000 to U+200A, the line and
paragraph separators, the narrow and mathematical spaces, and the ideographic space. -/
def isSpace (c : Char) : Bool :=
  inRanges [(0x9, 0xd), (0x20, 0x20), (0x85, 0x85), (0xa0, 0xa0), (0x1680, 0x1680),
    (0x2000, 0x200a), (0x2028, 0x2029), (0x202f, 0x202f), (0x205f, 0x205f), (0x3000, 0x3000)]
    c.toNat

/-- The blanks of a request: white space and the information separators. -/
def isBlank (c : Char) : Bool := isSpace c || (0x1c ≤ c.toNat && c.toNat ≤ 0x1f)

/-- A text without the characters of a class at its front and at its end. -/
def trimBy (p : Char → Bool) (t : Text) : Text :=
  ((t.dropWhile p).reverse.dropWhile p).reverse

/-- A text without blanks at its front and at its end. -/
def trim (t : Text) : Text := trimBy isBlank t

/-- Trimming removes characters of the class, and only at the two ends. -/
theorem exists_eq_append_trimBy (p : Char → Bool) (t : Text) :
    ∃ g g', t = g ++ trimBy p t ++ g' ∧ (∀ c ∈ g, p c = true) ∧ (∀ c ∈ g', p c = true) := by
  refine ⟨t.takeWhile p, ((t.dropWhile p).reverse.takeWhile p).reverse, ?_, ?_, ?_⟩
  · have hback : t.dropWhile p
        = trimBy p t ++ ((t.dropWhile p).reverse.takeWhile p).reverse := by
      rw [trimBy, ← List.reverse_append, List.takeWhile_append_dropWhile, List.reverse_reverse]
    rw [List.append_assoc, ← hback, List.takeWhile_append_dropWhile]
  · intro c hc
    exact List.all_eq_true.1 List.all_takeWhile c hc
  · intro c hc
    exact List.all_eq_true.1 List.all_takeWhile c (List.mem_reverse.1 hc)

theorem trim_isInfix (t : Text) : trim t <:+: t := by
  obtain ⟨g, g', ht, -, -⟩ := exists_eq_append_trimBy isBlank t
  exact ⟨g, g', ht.symm⟩

/-- Blanks, as many as there are, and what follows them; at least one is required. -/
def gap? (t : Text) : Option (Text × Text) :=
  match t.takeWhile isBlank with
  | [] => none
  | g => some (g, t.dropWhile isBlank)

theorem eq_append_of_gap? {t g r : Text} (h : gap? t = some (g, r)) : t = g ++ r := by
  simp only [gap?] at h
  split at h
  · cases h
  · simp only [Option.some.injEq, Prod.mk.injEq] at h
    rw [← h.1, ← h.2, List.takeWhile_append_dropWhile]

end PlainSearch.Text
