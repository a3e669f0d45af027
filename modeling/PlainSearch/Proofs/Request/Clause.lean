/-
  Proofs/Request/Clause.lean --- what the numerals of clauses look like.

  WHAT THIS FILE IS FOR.  A clause is found at some place of the text, and its
  numeral is what its `NumeralForm` reads there.  What a form can read is said
  here without the form:

      a year is four digits                           (`Text.IsYear`);
      a whole number is one or more digits            (`Text.IsDigits`);
      an amount is one, or two with a point between   (`Text.IsAmount`).

  So a numeral has no quotes, no blanks and no operators, whatever the text.
-/
import PlainSearch.Request.Clause

set_option autoImplicit false

namespace PlainSearch

namespace Text

/-- One or more decimal digits. -/
def IsDigits (t : Text) : Prop := t ≠ [] ∧ ∀ c ∈ t, isDigit c = true

/-- Four decimal digits. -/
def IsYear (t : Text) : Prop := t.length = 4 ∧ ∀ c ∈ t, isDigit c = true

/-- Decimal digits, and perhaps a fraction. -/
def IsAmount (t : Text) : Prop :=
  IsDigits t ∨ ∃ whole part, t = whole ++ '.' :: part ∧ IsDigits whole ∧ IsDigits part

end Text

/-! ## What the forms read -/

namespace NumeralForm

variable {t n : Text}

theorem isDigits_of_digits (h : digits t = some n) : Text.IsDigits n := by
  unfold digits at h
  split at h
  · cases h
  · next hne =>
    cases h
    refine ⟨fun hnil => hne (by assumption), ?_⟩
    intro c hc
    exact List.all_eq_true.1 List.all_takeWhile c hc

theorem isYear_of_year (h : year t = some n) : Text.IsYear n := by
  simp only [year] at h
  split at h
  · next hcond =>
    cases h
    exact ⟨hcond.1, List.all_eq_true.1 hcond.2⟩
  · cases h

theorem isAmount_of_amount (h : amount t = some n) : Text.IsAmount n := by
  simp only [amount, Option.map_eq_some_iff] at h
  obtain ⟨whole, hwhole, rfl⟩ := h
  split
  · next r _ =>
    cases hpart : digits r with
    | none => exact .inl (isDigits_of_digits hwhole)
    | some part =>
      refine .inr ⟨whole, part, ?_, isDigits_of_digits hwhole, isDigits_of_digits hpart⟩
      simp
  · exact .inl (isDigits_of_digits hwhole)

theorem isDigits_of_whole (h : whole t = some n) : Text.IsDigits n := by
  unfold whole at h
  split at h
  · exact isDigits_of_digits h
  · cases h

end NumeralForm

/-! ## Where a clause is found -/

namespace Clause

variable {c : Clause} {t : Text} {o : Occurrence}

/-- The numeral of an occurrence is read behind a keyword and blanks. -/
theorem exists_numeral_of_readWith? {k : Keyword} (h : c.readWith? k t = some o) :
    ∃ r, c.numeral r = some o.numeral := by
  unfold readWith? at h
  split at h
  · cases h
  · split at h
    · cases h
    · next r _ =>
      obtain ⟨n, hn, rfl⟩ := Option.map_eq_some_iff.1 h
      exact ⟨r, hn⟩

theorem exists_numeral_of_at? {before : Option Char} (h : c.at? before t = some o) :
    ∃ r, c.numeral r = some o.numeral := by
  unfold at? at h
  split at h
  · obtain ⟨k, -, hk⟩ := List.exists_of_findSome?_eq_some h
    exact exists_numeral_of_readWith? hk
  · cases h

theorem exists_numeral_of_firstAfter? {before : Option Char}
    (h : c.firstAfter? before t = some o) : ∃ r, c.numeral r = some o.numeral := by
  induction t generalizing before with
  | nil => cases h
  | cons a t ih =>
    rw [firstAfter?] at h
    split at h
    · next hat =>
      cases h
      exact exists_numeral_of_at? hat
    · exact ih h

/-- The numeral of a clause that was found is one that its form reads. -/
theorem exists_numeral_of_first? (h : c.first? t = some o) : ∃ r, c.numeral r = some o.numeral :=
  exists_numeral_of_firstAfter? h

end Clause
end PlainSearch
