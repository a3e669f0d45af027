/-
  Text/Digit.lean --- decimal digits of every script.

  WHAT THIS FILE IS FOR.  A number in a request may be written in any script: a
  digit is a character of the Unicode category Nd (version 14.0).  These come in
  blocks of ten in increasing order, so a table of the sixty-six zeros tells both
  which characters are digits and what each of them is worth.

  Types of columns are decided on the digits 0 to 9 alone (`isAsciiDigit`).
-/
import PlainSearch.Text.Basic

set_option autoImplicit false

namespace PlainSearch.Text

/-- The digit zero of each script; the other nine digits follow it. -/
def digitZeros : List Nat := [
   0x30, 0x660, 0x6f0, 0x7c0, 0x966, 0x9e6, 0xa66, 0xae6,
   0xb66, 0xbe6, 0xc66, 0xce6, 0xd66, 0xde6, 0xe50, 0xed0,
   0xf20, 0x1040, 0x1090, 0x17e0, 0x1810, 0x1946, 0x19d0, 0x1a80,
   0x1a90, 0x1b50, 0x1bb0, 0x1c40, 0x1c50, 0xa620, 0xa8d0, 0xa900,
   0xa9d0, 0xa9f0, 0xaa50, 0xabf0, 0xff10, 0x104a0, 0x10d30, 0x11066,
   0x110f0, 0x11136, 0x111d0, 0x112f0, 0x11450, 0x114d0, 0x11650, 0x116c0,
   0x11730, 0x118e0, 0x11950, 0x11c50, 0x11d50, 0x11da0, 0x16a60, 0x16ac0,
   0x16b50, 0x1d7ce, 0x1d7d8, 0x1d7e2, 0x1d7ec, 0x1d7f6, 0x1e140, 0x1e2f0,
   0x1e950, 0x1fbf0]

/-- What the digit `c` is worth; nothing if `c` is no digit. -/
def digitValue? (c : Char) : Option Nat :=
  (digitZeros.find? fun z => z ≤ c.toNat && c.toNat ≤ z + 9).map fun z => c.toNat - z

/-- A decimal digit of some script. -/
def isDigit (c : Char) : Bool := (digitValue? c).isSome

/-- One of the digits 0 to 9. -/
def isAsciiDigit (c : Char) : Bool := 0x30 ≤ c.toNat && c.toNat ≤ 0x39

theorem digitValue?_lt {c : Char} {n : Nat} (h : digitValue? c = some n) : n < 10 := by
  simp only [digitValue?, Option.map_eq_some_iff] at h
  obtain ⟨z, hz, rfl⟩ := h
  have := List.find?_some hz
  simp only [Bool.and_eq_true, decide_eq_true_eq] at this
  omega

theorem isDigit_of_isAsciiDigit {c : Char} (h : isAsciiDigit c = true) : isDigit c = true := by
  simp only [isAsciiDigit, Bool.and_eq_true, decide_eq_true_eq] at h
  simp only [isDigit, digitValue?, Option.isSome_map, List.find?_isSome]
  exact ⟨0x30, by simp [digitZeros], by simp; omega⟩

/-- The number that a run of digits stands for, the first digit weighing most. -/
def numeralValue (t : Text) : Nat := t.foldl (fun n c => 10 * n + (digitValue? c).getD 0) 0

/-- The digit of a number below ten. -/
def digitChar (n : Nat) : Char := Char.ofNat (0x30 + n)

/-- A number in decimal, without leading zeros. -/
def ofNat (n : Nat) : Text := Nat.toDigits 10 n

theorem digitValue?_digitChar {d : Nat} (h : d < 10) : digitValue? (Nat.digitChar d) = some d := by
  have table : ∀ d < 10, digitValue? (Nat.digitChar d) = some d := by decide
  exact table d h

theorem isAsciiDigit_of_mem_ofNat {n : Nat} {c : Char} (h : c ∈ ofNat n) :
    isAsciiDigit c = true := by
  have hd := Nat.isDigit_of_mem_toDigits (by decide) (by decide) h
  simp only [Char.isDigit, Bool.and_eq_true, decide_eq_true_eq] at hd
  simp only [isAsciiDigit, Bool.and_eq_true, decide_eq_true_eq]
  exact hd

theorem ofNat_ne_nil (n : Nat) : ofNat n ≠ [] := Nat.toDigits_ne_nil

/-- A number in decimal reads as the number. -/
theorem numeralValue_ofNat (n : Nat) : numeralValue (ofNat n) = n := by
  induction n using Nat.strongRecOn with
  | ind n ih =>
    rw [ofNat, Nat.toDigits_eq_if (by decide)]
    split
    · next hlt => simp [numeralValue, digitValue?_digitChar hlt]
    · next hge =>
      have hrest : numeralValue (Nat.toDigits 10 (n / 10)) = n / 10 := ih (n / 10) (by omega)
      rw [numeralValue] at hrest ⊢
      rw [List.foldl_append, hrest]
      simp only [List.foldl_cons, List.foldl_nil]
      rw [digitValue?_digitChar (by omega), Option.getD_some]
      omega

/-- The number of digits is at most `k` exactly if the number is below the `k`th power of
ten. -/
theorem length_ofNat_le_iff {n k : Nat} (h : 0 < k) :
    (ofNat n).length ≤ k ↔ n < Nat.pow 10 k :=
  Nat.length_toDigits_le_iff (by decide) h

/-- A power of ten has one digit more than its exponent says. -/
theorem length_ofNat_pow {k : Nat} (h : 0 < k) : (ofNat (Nat.pow 10 k)).length = k + 1 := by
  have hlower := length_ofNat_le_iff (n := Nat.pow 10 k) h
  have hupper := length_ofNat_le_iff (n := Nat.pow 10 k) (Nat.succ_pos k)
  have hstep : Nat.pow 10 (k + 1) = Nat.pow 10 k * 10 := rfl
  have hpos : 0 < Nat.pow 10 k := Nat.pow_pos (by decide)
  rw [hstep] at hupper
  omega

/-- An integer in decimal, with a sign if it is negative. -/
def ofInt : Int → Text
  | .ofNat n => ofNat n
  | .negSucc n => '-' :: ofNat (n + 1)

end PlainSearch.Text
