/-
  Proofs/Text/Digit.lean --- runs of digits, and what they are worth.

  WHAT THIS FILE IS FOR.  Readers take the longest run of digits in front of them and ask
  what it is worth.  A run that was written ends where it was ended, if what follows it is
  no digit (`takeWhile_run`, `dropWhile_run`), and its worth is put together from the worth
  of its pieces (`numeralValue_append`):

      numeralValue (a ++ b)  =  numeralValue a * 10 ^ b.length + numeralValue b.

  So zeros in front are worth nothing, and zeros behind are worth a power of ten.
-/
import Mathlib.Data.List.Basic
import Mathlib.Data.List.TakeWhile
import Mathlib.Tactic.Ring
import PlainSearch.Text.Digit

set_option autoImplicit false

namespace PlainSearch.Text

/-! ## Runs -/

section

variable {p : Char → Bool} {run rest : Text}

/-- A run of characters of a class ends where something else follows. -/
theorem takeWhile_run (hrun : ∀ c ∈ run, p c = true) (hrest : ∀ c ∈ rest.head?, p c = false) :
    (run ++ rest).takeWhile p = run := by
  rw [List.takeWhile_append_of_pos hrun]
  cases rest with
  | nil => exact List.append_nil run
  | cons c rest => rw [List.takeWhile_cons_of_neg (by simpa using hrest c rfl), List.append_nil]

theorem dropWhile_run (hrun : ∀ c ∈ run, p c = true) (hrest : ∀ c ∈ rest.head?, p c = false) :
    (run ++ rest).dropWhile p = rest := by
  rw [List.dropWhile_append_of_pos hrun]
  cases rest with
  | nil => rfl
  | cons c rest => rw [List.dropWhile_cons_of_neg (by simpa using hrest c rfl)]

end

/-! ## What runs of digits are worth -/

theorem foldl_digits (n : Nat) (t : Text) :
    t.foldl (fun n c => 10 * n + (digitValue? c).getD 0) n
      = n * 10 ^ t.length + numeralValue t := by
  rw [numeralValue]
  induction t generalizing n with
  | nil => simp
  | cons c t ih =>
    rw [List.foldl_cons, List.foldl_cons, ih, ih (10 * 0 + _), List.length_cons]
    ring

/-- What two runs are worth one behind the other. -/
theorem numeralValue_append (a b : Text) :
    numeralValue (a ++ b) = numeralValue a * 10 ^ b.length + numeralValue b := by
  rw [numeralValue, List.foldl_append, foldl_digits]
  rfl

theorem numeralValue_zeros (k : Nat) : numeralValue (List.replicate k '0') = 0 := by
  induction k with
  | zero => rfl
  | succ k ih =>
    have hzero : numeralValue ['0'] = 0 := by decide
    rw [List.replicate_succ', numeralValue_append, ih, hzero, Nat.zero_mul]

/-- Zeros in front are worth nothing. -/
theorem numeralValue_zeros_append (k : Nat) (t : Text) :
    numeralValue (List.replicate k '0' ++ t) = numeralValue t := by
  rw [numeralValue_append, numeralValue_zeros, Nat.zero_mul, Nat.zero_add]

/-- Zeros behind are worth a power of ten. -/
theorem numeralValue_append_zeros (t : Text) (k : Nat) :
    numeralValue (t ++ List.replicate k '0') = numeralValue t * 10 ^ k := by
  rw [numeralValue_append, numeralValue_zeros, List.length_replicate, Nat.add_zero]

/-! ## Numbers in decimal -/

theorem isAsciiDigit_of_mem_zeros {k : Nat} {c : Char} (h : c ∈ List.replicate k '0') :
    isAsciiDigit c = true := by
  rw [List.eq_of_mem_replicate h]
  decide

/-- A number that is not zero does not begin with a zero. -/
theorem head?_ofNat_ne {n : Nat} (h : 0 < n) : (ofNat n).head? ≠ some '0' := by
  induction n using Nat.strongRecOn with
  | ind n ih =>
    rw [ofNat, Nat.toDigits_eq_if (by decide)]
    split
    · next hlt =>
      have table : ∀ d < 10, 0 < d → [Nat.digitChar d].head? ≠ some '0' := by decide
      exact table n hlt h
    · next hge =>
      rw [List.head?_append_of_ne_nil _ Nat.toDigits_ne_nil]
      exact ih (n / 10) (by omega) (by omega)

end PlainSearch.Text
