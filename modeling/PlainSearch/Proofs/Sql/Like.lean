/-
  Proofs/Sql/Like.lean --- a pattern made of a text finds that text.

  WHAT THIS FILE IS FOR.  What a pattern stands for is said by its characters in `Matches`, one
  rule for each kind of character.  The engine takes a pattern apart first, and then tries its
  pieces on a text; that comes to the same (`holds_iff_matches`).

  The companions of a database are asked for by a pattern, which is made of a suffix.  In it
  every character that would be a wildcard is escaped, and the engine compares letters without
  their case.  So the pattern

      holds of a name exactly if the name ends with the suffix up to the case of
      ASCII letters (`holds_endingWith_iff`),

  whatever characters the suffix has.  So it holds of every name that ends with the suffix
  as it is (`holds_endingWith_of_endsWith`).
-/
import PlainSearch.Sql.Like

set_option autoImplicit false

namespace PlainSearch

theorem Text.eqIgnoringAsciiCase_iff {s t : Text} :
    Text.eqIgnoringAsciiCase s t = true ↔
      s.map Text.asciiLowerChar = t.map Text.asciiLowerChar := by
  unfold Text.eqIgnoringAsciiCase
  exact decide_eq_true_iff

namespace Sql.Like

/-! ## The pieces of a pattern -/

theorem escape_cons (c : Char) (t : Text) : escape (c :: t) = escape [c] ++ escape t := by
  show escape ([c] ++ t) = _
  unfold escape
  rw [Text.substitute_append, Text.substitute_append, Text.substitute_append]

theorem items_cons_of_ne {c : Char} (p : Text) (hrun : c ≠ '%') (hone : c ≠ '_')
    (hmark : c ≠ '\\') : items (c :: p) = .literal c :: items p := by
  rw [items]
  · intro h
    exact absurd h hmark
  · intro a q h
    exact absurd h hmark
  · exact hrun
  · exact hone

/-- The characters of a text are the pieces of the pattern that stands for it. -/
theorem items_escape (t : Text) : items (escape t) = t.map Item.literal := by
  induction t with
  | nil => rfl
  | cons c t ih =>
    rw [escape_cons, List.map_cons, ← ih]
    by_cases hmark : c = '\\'
    · subst hmark
      rfl
    by_cases hrun : c = '%'
    · subst hrun
      rfl
    by_cases hone : c = '_'
    · subst hone
      rfl
    -- any other character is left as it is
    have hself : escape [c] = [c] := by
      simp [escape, Text.substitute, hmark, hrun, hone]
    rw [hself, List.singleton_append, items_cons_of_ne _ hrun hone hmark]

/-! ## What a pattern holds of -/

/-- A text has the form of a pattern, character by character of the pattern.  A backslash with
nothing behind it has no rule. -/
inductive Matches : Text → Text → Prop
  | nil : Matches [] []
  /-- a percent sign stands for any run of characters -/
  | run (u : Text) {p t : Text} : Matches p t → Matches ('%' :: p) (u ++ t)
  /-- an underscore stands for any one character -/
  | one (c : Char) {p t : Text} : Matches p t → Matches ('_' :: p) (c :: t)
  /-- the character behind a backslash stands for itself, up to the case of ASCII letters -/
  | escaped {a c : Char} {p t : Text} : Text.asciiLowerChar a = Text.asciiLowerChar c →
      Matches p t → Matches ('\\' :: a :: p) (c :: t)
  | plain {a c : Char} {p t : Text} : a ≠ '%' → a ≠ '_' → a ≠ '\\' →
      Text.asciiLowerChar a = Text.asciiLowerChar c → Matches p t → Matches (a :: p) (c :: t)

theorem matchesItems_literal_iff (s t : Text) :
    matchesItems (s.map Item.literal) t = true ↔ Text.eqIgnoringAsciiCase t s = true := by
  rw [Text.eqIgnoringAsciiCase_iff]
  induction s generalizing t with
  | nil => simp [matchesItems]
  | cons a s ih =>
    cases t with
    | nil => simp [matchesItems]
    | cons c t =>
      simp only [List.map_cons, matchesItems, Bool.and_eq_true, decide_eq_true_eq, ih,
        List.cons.injEq]
      exact and_congr_left fun _ => eq_comm

theorem mem_suffixes_iff {s t : Text} : s ∈ suffixes t ↔ s <:+ t := by
  induction t with
  | nil => simp [suffixes]
  | cons c t ih => rw [suffixes, List.mem_cons, ih, List.suffix_cons_iff]

theorem matchesItems_run_iff {is : List Item} {t : Text} :
    matchesItems (.run :: is) t = true ↔ ∃ u s, t = u ++ s ∧ matchesItems is s = true := by
  rw [matchesItems, List.any_eq_true]
  constructor
  · rintro ⟨s, hs, hmatches⟩
    obtain ⟨u, rfl⟩ := mem_suffixes_iff.1 hs
    exact ⟨u, s, rfl, hmatches⟩
  · rintro ⟨u, s, rfl, hmatches⟩
    exact ⟨s, mem_suffixes_iff.2 (List.suffix_append u s), hmatches⟩

theorem matchesItems_literal_cons_iff {a : Char} {is : List Item} {t : Text} :
    matchesItems (.literal a :: is) t = true ↔ ∃ c s, t = c :: s ∧
      Text.asciiLowerChar a = Text.asciiLowerChar c ∧ matchesItems is s = true := by
  cases t with
  | nil => simp [matchesItems]
  | cons c t =>
    rw [matchesItems, Bool.and_eq_true, decide_eq_true_eq]
    constructor
    · exact fun h => ⟨c, t, rfl, h⟩
    · rintro ⟨_, _, ⟨⟩, h⟩
      exact h

/-- A text that is tried on the pieces of a pattern has the form of the pattern. -/
theorem matches_of_holds {p t : Text} (h : holds p t = true) : Matches p t := by
  unfold holds at h
  induction p using items.induct generalizing t with
  | case1 =>
    obtain rfl : t = [] := of_decide_eq_true h
    exact .nil
  | case2 =>
    rw [items, matchesItems] at h
    cases h
  | case3 a p ih =>
    rw [items, matchesItems_literal_cons_iff] at h
    obtain ⟨c, s, rfl, hsame, hrest⟩ := h
    exact .escaped hsame (ih hrest)
  | case4 p ih =>
    rw [items, matchesItems_run_iff] at h
    obtain ⟨u, s, rfl, hrest⟩ := h
    exact .run u (ih hrest)
  | case5 p ih =>
    cases t with
    | nil => cases h
    | cons c t => exact .one c (ih h)
  | case6 a p hlone hmark hrun hone ih =>
    have hback : a ≠ '\\' := by
      rintro rfl
      cases p with
      | nil => exact hlone rfl rfl
      | cons b p => exact hmark b p rfl rfl
    rw [items_cons_of_ne p hrun hone hback, matchesItems_literal_cons_iff] at h
    obtain ⟨c, s, rfl, hsame, hrest⟩ := h
    exact .plain hrun hone hback hsame (ih hrest)

/-- The engine tells whether a text has the form of a pattern. -/
theorem holds_iff_matches {p t : Text} : holds p t = true ↔ Matches p t := by
  refine ⟨matches_of_holds, fun h => ?_⟩
  unfold holds
  induction h with
  | nil => rfl
  | run u _ ih => exact matchesItems_run_iff.2 ⟨u, _, rfl, ih⟩
  | one c _ ih => exact ih
  | escaped hsame _ ih => exact matchesItems_literal_cons_iff.2 ⟨_, _, rfl, hsame, ih⟩
  | plain hrun hone hback hsame _ ih =>
    rw [items_cons_of_ne _ hrun hone hback]
    exact matchesItems_literal_cons_iff.2 ⟨_, _, rfl, hsame, ih⟩

/-- The pattern made of a text holds of the texts that end with it, up to the case of ASCII
letters. -/
theorem holds_endingWith_iff {s t : Text} :
    holds (endingWith s) t = true ↔
      ∃ front back, t = front ++ back ∧ Text.eqIgnoringAsciiCase back s = true := by
  have hitems : items (endingWith s) = .run :: s.map Item.literal := by
    rw [← items_escape]
    rfl
  unfold holds
  rw [hitems, matchesItems_run_iff]
  simp only [matchesItems_literal_iff]

/-- In the words of the characters: a text has the form of that pattern exactly if its end agrees
with `s` when ASCII letters are in lower case. -/
theorem matches_endingWith_iff {s t : Text} :
    Matches (endingWith s) t ↔ ∃ front back, t = front ++ back ∧
      back.map Text.asciiLowerChar = s.map Text.asciiLowerChar := by
  rw [← holds_iff_matches, holds_endingWith_iff]
  simp only [Text.eqIgnoringAsciiCase_iff]

theorem holds_endingWith_of_endsWith {s t : Text} (h : Text.endsWith s t = true) :
    holds (endingWith s) t = true := by
  obtain ⟨front, rfl⟩ := Text.endsWith_iff.1 h
  exact holds_endingWith_iff.2 ⟨front, s, rfl, Text.eqIgnoringAsciiCase_iff.2 rfl⟩

end Sql.Like

end PlainSearch
