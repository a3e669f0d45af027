/-
  Proofs/Sql/Identifier.lean --- what a name in a statement is read as.

  WHAT THIS FILE IS FOR.  There are two ways to put a name into a statement: with
  double quotes where they are needed, and as it is.

  WITH QUOTES.  A name that is written bare is read as itself unless it ends with a line
  break, which the statement does not show.  Such names apart, a name is read as itself
  in every place, or refused in every place (`reading_of_isShown`); those refused are
  two words that are no reserved words of the writer and are words of the engine.

  AS IT IS.  `readName` is the rule by which a statement is taken apart: a name between
  double quotes, or else a run of letters, digits, underscores, dollar signs and
  characters beyond ASCII, which begins with neither a digit nor a dollar sign and is no
  keyword.  A name in front of a blank

      is read as itself exactly if it is such a run (`readName_append_iff`);

      written by `reference`, which quotes the others, it always is
      (`readName_reference_append`).
-/
import PlainSearch.Proofs.Sql.Enclosed
import PlainSearch.Sql.Keyword

set_option autoImplicit false
set_option maxRecDepth 2000

namespace PlainSearch.Sql

/-! ## Names written with quotes where they are needed -/

/-- The statement shows every character of the name. -/
def IsShown (name : Text) : Prop := isBare name = true → stem name = name

instance (name : Text) : Decidable (IsShown name) :=
  inferInstanceAs (Decidable (isBare name = true → stem name = name))

theorem reservedWords_of_isBare {name : Text} (h : isBare name = true) :
    reservedWords.contains name = false := by
  unfold isBare at h
  split at h
  · cases h
  · simp only [Bool.and_eq_true, Bool.not_eq_true'] at h
    exact h.2

/-- A word that is not reserved is read alike in every place. -/
theorem readWord_of_not_reserved (place : Place) {w : Text}
    (h : reservedWords.contains w = false) :
    readWord place w = if refusedWords.contains w then .refusedAt w else .name w := by
  have hall : ∀ v ∈ [openingWords, describableWords, valueOpeningWords,
      ["null".toList, "true".toList, "false".toList]].flatten,
        reservedWords.contains v = true := by
    decide +kernel
  have hnot : ∀ ws ∈ [openingWords, describableWords, valueOpeningWords,
      ["null".toList, "true".toList, "false".toList]], w ∉ ws := by
    intro ws hws hw
    rw [hall w (List.mem_flatten.2 ⟨ws, hws, hw⟩)] at h
    cases h
  rw [List.forall_mem_cons, List.forall_mem_cons, List.forall_mem_cons, List.forall_mem_cons,
    List.mem_cons, List.mem_cons, List.mem_singleton, not_or, not_or] at hnot
  obtain ⟨hopening, hdescribable, hvalue, ⟨hnull, htrue, hfalse⟩, -⟩ := hnot
  unfold readWord
  cases place <;>
    simp only [List.contains_eq_mem, hopening, hdescribable, hvalue, hnull, htrue, hfalse,
      decide_false, Bool.or_self, Bool.false_eq_true, if_false]

/-- A name that is shown is read as itself wherever it stands, or refused wherever it stands. -/
theorem reading_of_isShown {name : Text} (h : IsShown name) :
    (∀ place, reading place name = .name name) ∨
      ∀ place, reading place name = .refusedAt name := by
  by_cases hbare : isBare name = true
  · have hword : ∀ place, reading place name =
        if refusedWords.contains name then .refusedAt name else .name name := by
      intro place
      unfold reading
      rw [if_pos hbare, h hbare]
      exact readWord_of_not_reserved place (reservedWords_of_isBare hbare)
    by_cases hrefused : refusedWords.contains name = true
    · right
      intro place
      rw [hword, if_pos hrefused]
    · left
      intro place
      rw [hword, if_neg hrefused]
  · left
    intro place
    exact reading_of_not_isBare (Bool.eq_false_iff.2 hbare)

theorem stem_stem {name : Text} (h : isBare name = true) : stem (stem name) = stem name := by
  unfold isBare at h
  split at h
  · cases h
  · next c r heq =>
    have hchars : ∀ d ∈ stem name, isBareChar d = true := by
      simp only [Bool.and_eq_true, List.all_eq_true] at h
      rw [heq]
      exact h.1.1.1
    cases hstrip : Text.stripSuffix? ['\n'] (stem name) with
    | none => rw [stem, hstrip, Option.getD_none]
    | some u =>
      -- no character of a bare name is a line break
      have hbreak := hchars '\n' (by
        rw [Text.stripSuffix?_eq_some_iff.1 hstrip]
        exact List.mem_append_right u (List.mem_singleton_self _))
      exact absurd hbreak (by decide)

theorem isBare_stem {name : Text} (h : isBare name = true)
    (hstem : reservedWords.contains (stem name) = false) : isBare (stem name) = true := by
  have hsame := stem_stem h
  unfold isBare at h ⊢
  rw [hsame]
  split at h
  · cases h
  · next c r heq =>
    rw [heq] at hstem ⊢
    simp only [Bool.and_eq_true] at h ⊢
    exact ⟨h.1, by rw [hstem, Bool.not_false]⟩

/-- A name that is written bare is read as what is shown of it. -/
theorem reading_stem {name : Text} (h : isBare name = true)
    (hstem : reservedWords.contains (stem name) = false) (place : Place) :
    reading place name = reading place (stem name) := by
  unfold reading
  rw [if_pos h, if_pos (isBare_stem h hstem), stem_stem h]

theorem null_mem_stem_iff {name : Text} : '\x00' ∈ stem name ↔ '\x00' ∈ name := by
  unfold stem
  cases hstrip : Text.stripSuffix? ['\n'] name with
  | none => rfl
  | some u =>
    rw [Text.stripSuffix?_eq_some_iff.1 hstrip, Option.getD_some, List.mem_append]
    exact (or_iff_left (by decide)).symm

-- a line break at the end of a bare name is lost
example : reading .described "t\n".toList = .name "t".toList := by decide +kernel

/-! ## Names taken out of a statement -/

/-- A character of a name without quotes. -/
def isNameChar (c : Char) : Bool :=
  Text.inRanges [(0x24, 0x24), (0x30, 0x39), (0x41, 0x5a), (0x5f, 0x5f), (0x61, 0x7a)] c.toNat
    || 0x80 ≤ c.toNat

/-- A character that a name without quotes may begin with. -/
def beginsName (c : Char) : Bool := isNameChar c && !Text.isAsciiDigit c && c ≠ '$'

/-- A word of the language, in whatever case. -/
def isKeyword (w : Text) : Bool :=
  (reservedWords ++ refusedWords).contains (w.map Text.asciiLowerChar)

/-- A name that needs no quotes. -/
def isPlain (name : Text) : Bool :=
  name.head?.any beginsName && name.all isNameChar && !isKeyword name

/-- The name at the front of a text, and what follows it. -/
def readName : Text → Option (Text × Text)
  | '"' :: t => readEnclosed '"' t
  | t =>
    let w := t.takeWhile isNameChar
    if isPlain w then some (w, t.dropWhile isNameChar) else none

/-- A name as it is written so that it can be taken out again. -/
def reference (name : Text) : Text := if isPlain name then name else quotedName name

theorem readName_quotedName_append (name : Text) {r : Text} (h : r.head? ≠ some '"') :
    readName (quotedName name ++ r) = some (name, r) := by
  show readEnclosed '"' (Text.substitute '"' ['"', '"'] name ++ ['"'] ++ r) = some (name, r)
  rw [List.append_assoc]
  exact readEnclosed_append name h

theorem readName_of_head? {t : Text} (h : t.head? ≠ some '"') :
    readName t =
      if isPlain (t.takeWhile isNameChar) then
        some (t.takeWhile isNameChar, t.dropWhile isNameChar)
      else none := by
  unfold readName
  split
  · exact absurd rfl h
  · rfl

theorem isPlain_iff {name : Text} :
    isPlain name = true ↔
      (∃ c, name.head? = some c ∧ beginsName c = true) ∧ (∀ c ∈ name, isNameChar c = true) ∧
        isKeyword name = false := by
  simp only [isPlain, Bool.and_eq_true, Option.any_eq_true, List.all_eq_true, Bool.not_eq_true',
    and_assoc]

theorem readName_append_of_isPlain {name r : Text} (hname : isPlain name = true)
    (hr : r.head? = some ' ') : readName (name ++ r) = some (name, r) := by
  obtain ⟨⟨c, hc, hbegins⟩, hall, -⟩ := isPlain_iff.1 hname
  have hhead : (name ++ r).head? ≠ some '"' := by
    rw [List.head?_append, hc, Option.some_or]
    intro heq
    cases heq
    exact absurd hbegins (by decide)
  have hstop : ∀ d ∈ r.head?, ¬ isNameChar d = true := by
    rw [hr]
    intro d hd
    cases hd
    decide
  have htake : (name ++ r).takeWhile isNameChar = name := by
    rw [List.takeWhile_append_of_pos hall]
    cases r with
    | nil => simp
    | cons d r => simp [hstop d rfl]
  have hdrop : (name ++ r).dropWhile isNameChar = r := by
    rw [List.dropWhile_append_of_pos hall]
    cases r with
    | nil => rfl
    | cons d r => simp [hstop d rfl]
  rw [readName_of_head? hhead, htake, hdrop, if_pos hname]

/-- A name as it is, in front of a blank, is read as itself exactly if it needs no quotes. -/
theorem readName_append_iff {name r : Text} (hr : r.head? = some ' ') :
    readName (name ++ r) = some (name, r) ↔ isPlain name = true := by
  refine ⟨?_, fun hname => readName_append_of_isPlain hname hr⟩
  intro h
  by_cases hhead : (name ++ r).head? = some '"'
  · -- what stands between quotes is shorter than what stands there with them
    cases name with
    | nil =>
      rw [List.nil_append, hr] at hhead
      cases hhead
    | cons c t =>
      cases hhead
      have htext : t ++ r = Text.substitute '"' ['"', '"'] ('"' :: t) ++ '"' :: r :=
        (readEnclosed_eq_some_iff.1 h).1
      have hlength := congrArg List.length htext
      have hle := Text.length_le_length_substitute '"' (w := ['"', '"']) (by simp) ('"' :: t)
      simp only [List.length_append, List.length_cons] at hlength hle
      omega
  · rw [readName_of_head? hhead] at h
    split at h
    · next hplain =>
      have heq : (name ++ r).takeWhile isNameChar = name := congrArg Prod.fst (Option.some.inj h)
      rwa [heq] at hplain
    · cases h

/-- A name written as a reference is read back in front of a blank. -/
theorem readName_reference_append (name : Text) {r : Text} (hr : r.head? = some ' ') :
    readName (reference name ++ r) = some (name, r) := by
  unfold reference
  split
  · next hplain => exact readName_append_of_isPlain hplain hr
  · exact readName_quotedName_append name (by rw [hr]; decide)

end PlainSearch.Sql
