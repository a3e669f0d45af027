/-
  Proofs/Text/Utf8.lean --- a text is read back from its bytes.

  WHAT THIS FILE IS FOR.  A character is one to four bytes.  The first of them tells how
  many follow and in which ranges they lie, and so a reader finds the end of the character
  and the character itself, whatever bytes stand behind (`parts_utf8EncodeChar`).  Hence

      decodeLossy (encode t)  =  t                        (`decodeLossy_encode`),

  and a text without percent signs stands for itself in a URL (`Percent.decode_eq_self`).
-/
import Mathlib.Data.List.Forall2
import PlainSearch.Text.Percent

set_option autoImplicit false

namespace PlainSearch

namespace Utf8

/-- A byte lies in a range. -/
def Fits (r : Nat × Nat) (b : UInt8) : Prop := r.1 ≤ b.toNat ∧ b.toNat ≤ r.2

theorem fitting_append {ranges : List (Nat × Nat)} {rest : List UInt8}
    (h : List.Forall₂ Fits ranges rest) (bs : List UInt8) : fitting ranges (rest ++ bs) = rest := by
  induction h with
  | nil => cases bs <;> rfl
  | cons hfits _ ih => rw [List.cons_append, fitting, if_pos ⟨hfits.1, hfits.2⟩, ih]

/-- A first byte and bytes that fit behind it are a character. -/
theorem parts_character {b : UInt8} {rest : List UInt8} {ranges : List (Nat × Nat)}
    (hranges : rangesAfter? b.toNat = some ranges) (hrest : List.Forall₂ Fits ranges rest)
    (bs : List UInt8) : parts (b :: rest ++ bs) = some (charOf b.toNat rest) :: parts bs := by
  have hlength : rest.length = ranges.length := hrest.length_eq.symm
  rw [List.cons_append, parts, hranges]
  simp only [fitting_append hrest, hlength, if_true]
  rw [← hlength, List.drop_left]

theorem toNat_ofNat_of_lt {n : Nat} (h : n < 256) : (UInt8.ofNat n).toNat = n := by
  rw [UInt8.toNat_ofNat', Nat.mod_eq_of_lt h]

/-- Any byte that goes on with a character. -/
theorem fits_any (n : Nat) : Fits (0x80, 0xbf) (UInt8.ofNat (n % 64 + 128)) := by
  rw [Fits, toNat_ofNat_of_lt (by omega)]
  omega

theorem foldl_bytes (high : Nat) (rest : List Nat) (h : ∀ n ∈ rest, n < 64) :
    (rest.map fun n => UInt8.ofNat (n + 128)).foldl (fun n b => 0x40 * n + b.toNat % 0x40) high
      = rest.foldl (fun n m => 0x40 * n + m) high := by
  induction rest generalizing high with
  | nil => rfl
  | cons m rest ih =>
    have hm := h m List.mem_cons_self
    have hbyte : (UInt8.ofNat (m + 128)).toNat % 0x40 = m := by
      rw [toNat_ofNat_of_lt (by omega)]
      omega
    rw [List.map_cons, List.foldl_cons, List.foldl_cons, hbyte,
      ih _ fun n hn => h n (List.mem_cons_of_mem m hn)]

variable {n : Nat}

theorem parts_two (hlower : 0x80 ≤ n) (hupper : n ≤ 0x7ff) (bs : List UInt8) :
    parts ([UInt8.ofNat (n / 64 % 32 + 192), UInt8.ofNat (n % 64 + 128)] ++ bs)
      = some (Char.ofNat n) :: parts bs := by
  have hfirst : (UInt8.ofNat (n / 64 % 32 + 192)).toNat = n / 64 + 192 := by
    rw [toNat_ofNat_of_lt (by omega)]
    omega
  have hranges : rangesAfter? (n / 64 + 192) = some [(0x80, 0xbf)] := by
    rw [rangesAfter?, if_neg (by omega), if_pos (by omega)]
  have hchar : charOf (n / 64 + 192) [UInt8.ofNat (n % 64 + 128)] = Char.ofNat n := by
    have hfold := foldl_bytes ((n / 64 + 192) % 0x20) [n % 64] (by simp; omega)
    rw [List.map_singleton] at hfold
    simp only [charOf, List.length_singleton, hfold, List.foldl_cons, List.foldl_nil]
    congr 1
    omega
  have h := parts_character (by rw [hfirst, hranges]) (.cons (fits_any n) .nil) bs
  rwa [hfirst, hchar] at h

theorem parts_three (hlower : 0x800 ≤ n) (hupper : n ≤ 0xffff)
    (hvalid : n < 0xd800 ∨ 0xdfff < n) (bs : List UInt8) :
    parts ([UInt8.ofNat (n / 4096 % 16 + 224), UInt8.ofNat (n / 64 % 64 + 128),
        UInt8.ofNat (n % 64 + 128)] ++ bs)
      = some (Char.ofNat n) :: parts bs := by
  have hfirst : (UInt8.ofNat (n / 4096 % 16 + 224)).toNat = n / 4096 + 224 := by
    rw [toNat_ofNat_of_lt (by omega)]
    omega
  have hsecond : (UInt8.ofNat (n / 64 % 64 + 128)).toNat = n / 64 % 64 + 128 :=
    toNat_ofNat_of_lt (by omega)
  -- the first two of the first bytes leave a part of the range out
  have hranges : ∃ r, rangesAfter? (n / 4096 + 224) = some [r, (0x80, 0xbf)] ∧
      Fits r (UInt8.ofNat (n / 64 % 64 + 128)) := by
    rw [rangesAfter?, if_neg (by omega), if_neg (by omega)]
    by_cases hlow : n / 4096 + 224 = 0xe0
    · refine ⟨(0xa0, 0xbf), if_pos hlow, ?_⟩
      rw [Fits, hsecond]
      omega
    rw [if_neg hlow]
    by_cases hsurrogate : n / 4096 + 224 = 0xed
    · refine ⟨(0x80, 0x9f), if_pos hsurrogate, ?_⟩
      rw [Fits, hsecond]
      omega
    · exact ⟨(0x80, 0xbf), by rw [if_neg hsurrogate, if_pos (by omega)], fits_any (n / 64)⟩
  have hchar : charOf (n / 4096 + 224) [UInt8.ofNat (n / 64 % 64 + 128), UInt8.ofNat (n % 64 + 128)]
      = Char.ofNat n := by
    have hfold := foldl_bytes ((n / 4096 + 224) % 0x10) [n / 64 % 64, n % 64] (by simp; omega)
    simp only [List.map_cons, List.map_nil] at hfold
    simp only [charOf, List.length_cons, List.length_nil, hfold, List.foldl_cons, List.foldl_nil]
    congr 1
    omega
  obtain ⟨r, hranges, hfits⟩ := hranges
  have h := parts_character (by rw [hfirst, hranges]) (.cons hfits (.cons (fits_any n) .nil)) bs
  rwa [hfirst, hchar] at h

theorem parts_four (hlower : 0x10000 ≤ n) (hupper : n < 0x110000) (bs : List UInt8) :
    parts ([UInt8.ofNat (n / 262144 % 8 + 240), UInt8.ofNat (n / 4096 % 64 + 128),
        UInt8.ofNat (n / 64 % 64 + 128), UInt8.ofNat (n % 64 + 128)] ++ bs)
      = some (Char.ofNat n) :: parts bs := by
  have hfirst : (UInt8.ofNat (n / 262144 % 8 + 240)).toNat = n / 262144 + 240 := by
    rw [toNat_ofNat_of_lt (by omega)]
    omega
  have hsecond : (UInt8.ofNat (n / 4096 % 64 + 128)).toNat = n / 4096 % 64 + 128 :=
    toNat_ofNat_of_lt (by omega)
  have hranges : ∃ r, rangesAfter? (n / 262144 + 240) = some [r, (0x80, 0xbf), (0x80, 0xbf)] ∧
      Fits r (UInt8.ofNat (n / 4096 % 64 + 128)) := by
    rw [rangesAfter?, if_neg (by omega), if_neg (by omega), if_neg (by omega), if_neg (by omega),
      if_neg (by omega)]
    by_cases hlow : n / 262144 + 240 = 0xf0
    · refine ⟨(0x90, 0xbf), if_pos hlow, ?_⟩
      rw [Fits, hsecond]
      omega
    rw [if_neg hlow]
    by_cases hhigh : n / 262144 + 240 = 0xf4
    · refine ⟨(0x80, 0x8f), by rw [if_neg (by omega), if_pos hhigh], ?_⟩
      rw [Fits, hsecond]
      omega
    · exact ⟨(0x80, 0xbf), if_pos (by omega), fits_any (n / 4096)⟩
  have hchar : charOf (n / 262144 + 240) [UInt8.ofNat (n / 4096 % 64 + 128),
      UInt8.ofNat (n / 64 % 64 + 128), UInt8.ofNat (n % 64 + 128)] = Char.ofNat n := by
    have hfold := foldl_bytes ((n / 262144 + 240) % 0x08) [n / 4096 % 64, n / 64 % 64, n % 64]
      (by simp; omega)
    simp only [List.map_cons, List.map_nil] at hfold
    simp only [charOf, List.length_cons, List.length_nil, hfold, List.foldl_cons, List.foldl_nil]
    congr 1
    omega
  obtain ⟨r, hranges, hfits⟩ := hranges
  have h := parts_character (by rw [hfirst, hranges])
    (.cons hfits (.cons (fits_any (n / 64)) (.cons (fits_any n) .nil))) bs
  rwa [hfirst, hchar] at h

/-- The bytes of a character are read as the character, whatever follows them. -/
theorem parts_utf8EncodeChar (c : Char) (bs : List UInt8) :
    parts (String.utf8EncodeChar c ++ bs) = some c :: parts bs := by
  have hvalid : c.toNat < 0xd800 ∨ 0xdfff < c.toNat ∧ c.toNat < 0x110000 := c.valid
  have hchar : Char.ofNat c.toNat = c := c.ofNat_toNat
  have hnumber : c.val.toNat = c.toNat := rfl
  rw [String.utf8EncodeChar.eq_1, hnumber]
  split
  · next h =>
    have hfirst : (UInt8.ofNat c.toNat).toNat = c.toNat := toNat_ofNat_of_lt (by omega)
    have hranges : rangesAfter? (UInt8.ofNat c.toNat).toNat = some [] := by
      rw [hfirst, rangesAfter?, if_pos h]
    have hone := parts_character hranges .nil bs
    have hcharOf : charOf c.toNat [] = c := hchar
    rwa [hfirst, hcharOf] at hone
  split
  · rw [parts_two (by omega) (by omega), hchar]
  split
  · rw [parts_three (by omega) (by omega) (by omega), hchar]
  · rw [parts_four (by omega) (by omega), hchar]

/-- A text is read back from its bytes. -/
theorem decodeLossy_encode (t : Text) : decodeLossy (encode t) = t := by
  unfold decodeLossy encode
  induction t with
  | nil => simp [parts]
  | cons c t ih => rw [List.flatMap_cons, parts_utf8EncodeChar, List.map_cons, ih, Option.getD_some]

end Utf8

namespace Percent

/-- The bytes of a text without percent signs are those of its characters. -/
theorem bytes_eq_encode {t : Text} (h : '%' ∉ t) : bytes t = Utf8.encode t := by
  induction t with
  | nil => rfl
  | cons c t ih =>
    rw [List.mem_cons, not_or] at h
    have hstep : bytes (c :: t) = String.utf8EncodeChar c ++ bytes t := by
      rw [bytes]
      exact fun _ _ _ hc => absurd hc.symm h.1
    rw [hstep, ih h.2]
    rfl

/-- A text without percent signs stands for itself. -/
theorem decode_eq_self {t : Text} (h : '%' ∉ t) : decode t = t := by
  rw [decode, bytes_eq_encode h, Utf8.decodeLossy_encode]

end Percent
end PlainSearch
