/-
  Proofs/Json/String.lean --- a string in a document is read back as the text it is of.

  WHAT THIS FILE IS FOR.  The writer escapes what is not printable ASCII, by name or by
  number, and beyond U+FFFF as a pair of surrogates.  The reader takes escapes of
  all these kinds, and more than the writer has.  Between the two stands one fact
  about a character, whatever it is:

      readChars? (fuel + 1) (escapeChar c ++ r)  reads c, and then r with `fuel`.

  Hence a string is read back as its text, up to its closing mark and not a
  character further, if there is one unit of fuel for each character of the text
  and one for the mark (`readChars?_flatMap_escapeChar`).  So a string tells its
  text, and where it ends (`string_append_inj`).
-/
import PlainSearch.Json.Reader
import PlainSearch.Json.Writer

set_option autoImplicit false

namespace PlainSearch.Json

/-! ## Units -/

/-- A hexadecimal digit is worth the number that it is written for. -/
theorem hexValue?_digitChar : ∀ n < 16, hexValue? (Nat.digitChar n) = some n := by decide

theorem hex_one {n : Nat} (h : n < 16) : Text.hex 1 n = [Nat.digitChar n] := by
  rw [Text.hex, Nat.toDigits_of_lt_base h]
  rfl

theorem hex_succ {k n : Nat} (hk : 0 < k) :
    Text.hex (k + 1) n = Text.hex k (n / 16) ++ [Nat.digitChar (n % 16)] := by
  unfold Text.hex Text.padLeft
  rw [Nat.toDigits_eq_if (by decide)]
  split
  · next hlt =>
    rw [Nat.div_eq_of_lt hlt, Nat.mod_eq_of_lt hlt, Nat.toDigits_of_lt_base (by decide)]
    obtain ⟨j, rfl⟩ := Nat.exists_eq_succ_of_ne_zero (Nat.ne_of_gt hk)
    rw [List.length_singleton, List.length_singleton, Nat.add_sub_cancel, Nat.succ_sub_one,
      Nat.succ_eq_add_one, List.replicate_succ']
    rfl
  · rw [List.length_append, List.length_singleton, Nat.add_sub_add_right, List.append_assoc]

/-- The four digits of a unit read as the unit. -/
theorem readUnit?_hex {n : Nat} (h : n < 0x10000) (r : Text) :
    readUnit? (Text.hex 4 n ++ r) = some (n, r) := by
  have hdigit : ∀ m, hexValue? (Nat.digitChar (m % 16)) = some (m % 16) := fun m =>
    hexValue?_digitChar _ (Nat.mod_lt m (by decide))
  have hfirst : hexValue? (Nat.digitChar (n / 16 / 16 / 16)) = some (n / 16 / 16 / 16) :=
    hexValue?_digitChar _ (by omega)
  rw [hex_succ (by decide), hex_succ (by decide), hex_succ (by decide), hex_one (by omega)]
  simp only [List.cons_append, List.nil_append, readUnit?, hfirst, hdigit]
  have hvalue :
      ((n / 16 / 16 / 16 * 16 + n / 16 / 16 % 16) * 16 + n / 16 % 16) * 16 + n % 16 = n := by
    omega
  rw [hvalue]

/-! ## Characters -/

/-- A unit that is no surrogate is an escape for its character. -/
theorem readNumberEscape?_unit {n : Nat} (h : n < 0xd800 ∨ 0xdfff < n ∧ n < 0x10000) (r : Text) :
    readNumberEscape? (Text.hex 4 n ++ r) = some (Char.ofNat n, r) := by
  have hhigh : isHigh n = false := by
    simp only [isHigh, Bool.and_eq_false_iff, decide_eq_false_iff_not]
    omega
  have hlow : isLow n = false := by
    simp only [isLow, Bool.and_eq_false_iff, decide_eq_false_iff_not]
    omega
  unfold readNumberEscape?
  rw [readUnit?_hex (by omega)]
  simp only [hhigh, hlow, Bool.false_eq_true, if_false]

/-- Two surrogates are an escape for a character beyond the units. -/
theorem readNumberEscape?_pair {high low : Nat} (hhigh : isHigh high = true)
    (hlow : isLow low = true) (r : Text) :
    readNumberEscape? (Text.hex 4 high ++ (unitEscape low ++ r))
      = some (Char.ofNat (0x10000 + (high - 0xd800) * 0x400 + (low - 0xdc00)), r) := by
  have hhigh' : high < 0x10000 := by
    simp only [isHigh, Bool.and_eq_true, decide_eq_true_eq] at hhigh
    omega
  have hlow' : low < 0x10000 := by
    simp only [isLow, Bool.and_eq_true, decide_eq_true_eq] at hlow
    omega
  unfold readNumberEscape? unitEscape
  rw [readUnit?_hex hhigh']
  simp only [hhigh, if_true, List.cons_append, List.nil_append]
  rw [readUnit?_hex hlow']
  simp only [hlow, if_true]

/-- The number of a character is outside the surrogates. -/
theorem toNat_lt_or (c : Char) : c.toNat < 0xd800 ∨ 0xdfff < c.toNat ∧ c.toNat < 0x110000 :=
  c.valid

theorem readEscape?_u (t : Text) : readEscape? ('u' :: t) = readNumberEscape? t := rfl

theorem unitEscape_append (n : Nat) (t : Text) :
    unitEscape n ++ t = '\\' :: 'u' :: (Text.hex 4 n ++ t) := rfl

theorem exists_readEscape?_numberEscape (c : Char) :
    ∃ e, numberEscape c.toNat = '\\' :: e ∧ ∀ r, readEscape? (e ++ r) = some (c, r) := by
  have hvalid := toNat_lt_or c
  unfold numberEscape
  split
  · refine ⟨'u' :: Text.hex 4 c.toNat, rfl, fun r => ?_⟩
    rw [List.cons_append, readEscape?_u, readNumberEscape?_unit (by omega), Char.ofNat_toNat]
  · have hhigh : isHigh (0xd800 + (c.toNat - 0x10000) / 0x400) = true := by
      simp only [isHigh, Bool.and_eq_true, decide_eq_true_eq]
      omega
    have hlow : isLow (0xdc00 + (c.toNat - 0x10000) % 0x400) = true := by
      simp only [isLow, Bool.and_eq_true, decide_eq_true_eq]
      omega
    have hvalue : 0x10000 + (0xd800 + (c.toNat - 0x10000) / 0x400 - 0xd800) * 0x400
        + (0xdc00 + (c.toNat - 0x10000) % 0x400 - 0xdc00) = c.toNat := by
      omega
    refine ⟨_, unitEscape_append _ _, fun r => ?_⟩
    rw [List.cons_append, readEscape?_u, List.append_assoc, readNumberEscape?_pair hhigh hlow,
      hvalue, Char.ofNat_toNat]

/-- A character in a string is written as it is, or behind a backslash as an escape for it. -/
theorem escapeChar_cases (c : Char) :
    (escapeChar c = [c] ∧ c ≠ '"' ∧ c ≠ '\\' ∧ 0x20 ≤ c.toNat) ∨
      ∃ e, escapeChar c = '\\' :: e ∧ ∀ r, readEscape? (e ++ r) = some (c, r) := by
  by_cases hmark : c = '"'
  · subst hmark
    exact .inr ⟨['"'], rfl, fun _ => rfl⟩
  by_cases hback : c = '\\'
  · subst hback
    exact .inr ⟨['\\'], rfl, fun _ => rfl⟩
  unfold escapeChar
  rw [if_neg (not_or.2 ⟨hmark, hback⟩)]
  split
  · next h => exact .inr ⟨['n'], rfl, fun _ => h ▸ rfl⟩
  split
  · next h => exact .inr ⟨['r'], rfl, fun _ => h ▸ rfl⟩
  split
  · next h => exact .inr ⟨['t'], rfl, fun _ => h ▸ rfl⟩
  split
  · next h => exact .inr ⟨['f'], rfl, fun _ => h ▸ rfl⟩
  split
  · next h => exact .inr ⟨['b'], rfl, fun _ => h ▸ rfl⟩
  split
  · next h => exact .inl ⟨rfl, hmark, hback, h.1⟩
  · exact .inr (exists_readEscape?_numberEscape c)

/-! ## Strings -/

theorem readChars?_escapeChar (fuel : Nat) (c : Char) (r : Text) :
    readChars? (fuel + 1) (escapeChar c ++ r)
      = (readChars? fuel r).map fun p => (c :: p.1, p.2) := by
  rcases escapeChar_cases c with ⟨hplain, hmark, hback, hprintable⟩ | ⟨e, hescape, hread⟩
  · rw [hplain, List.singleton_append, readChars?, if_neg hmark, if_neg hback,
      if_neg (Nat.not_lt.2 hprintable)]
  · rw [hescape, List.cons_append, readChars?, if_neg (by decide), if_pos rfl, hread]

/-- The characters of a string are read back, up to the closing mark. -/
theorem readChars?_flatMap_escapeChar {fuel : Nat} {t : Text} (h : t.length < fuel) (r : Text) :
    readChars? fuel (t.flatMap escapeChar ++ '"' :: r) = some (t, r) := by
  induction t generalizing fuel with
  | nil =>
    obtain ⟨fuel, rfl⟩ := Nat.exists_eq_succ_of_ne_zero (Nat.ne_of_gt h)
    rfl
  | cons c t ih =>
    obtain ⟨fuel, rfl⟩ := Nat.exists_eq_succ_of_ne_zero (Nat.ne_of_gt (Nat.zero_lt_of_lt h))
    rw [List.flatMap_cons, List.append_assoc, readChars?_escapeChar,
      ih (Nat.lt_of_succ_lt_succ h)]
    rfl

/-- A string tells its text, and where it ends. -/
theorem string_append_inj {t t' r r' : Text} (h : string t ++ r = string t' ++ r') :
    t = t' ∧ r = r' := by
  have hbody : t.flatMap escapeChar ++ '"' :: r = t'.flatMap escapeChar ++ '"' :: r' := by
    simpa [string] using h
  have hread : readChars? (t.length + t'.length + 1) (t.flatMap escapeChar ++ '"' :: r)
      = some (t, r) := readChars?_flatMap_escapeChar (by omega) r
  rw [hbody, readChars?_flatMap_escapeChar (by omega)] at hread
  have hpair := Option.some.inj hread
  exact ⟨(congrArg Prod.fst hpair).symm, (congrArg Prod.snd hpair).symm⟩

/-! ## Records -/

/-- The fields of a record behind one of them. -/
def moreFields (depth : Nat) : Fields → Text
  | [] => []
  | f :: fs => ',' :: renderFields depth (f :: fs)

theorem renderFields_cons (depth : Nat) (k : Text) (v : Datum) (fs : Fields) :
    renderFields depth ((k, v) :: fs)
      = newline depth ++ (string k ++ ([':', ' '] ++ (render depth v ++ moreFields depth fs))) := by
  cases fs with
  | nil => simp only [renderFields, moreFields, List.append_assoc, List.append_nil]
  | cons f fs =>
    simp only [renderFields, moreFields, List.append_assoc, List.cons_append, List.nil_append]

theorem document_record_cons (k : Text) (v : Datum) (fs : Fields) :
    document (.record ((k, v) :: fs))
      = '{' :: (renderFields 1 ((k, v) :: fs) ++ ['\n', '}']) := by
  simp only [document, render, newline, List.cons_append, List.append_assoc]
  rfl

/-- The document of a record tells the name of the first field. -/
theorem name_eq_of_document_eq {k k' : Text} {v v' : Datum} {fs fs' : Fields}
    (h : document (.record ((k, v) :: fs)) = document (.record ((k', v') :: fs'))) : k = k' := by
  rw [document_record_cons, document_record_cons, renderFields_cons, renderFields_cons] at h
  simp only [List.append_assoc, List.cons.injEq, true_and, List.append_cancel_left_eq] at h
  exact (string_append_inj h).1

/-- Fields with texts for values. -/
def textFields (fs : List (Text × Text)) : Fields := fs.map fun f => (f.1, .text f.2)

theorem moreFields_textFields_inj {depth : Nat} {fs fs' : List (Text × Text)} {r r' : Text}
    (h : moreFields depth (textFields fs) ++ '\n' :: r
      = moreFields depth (textFields fs') ++ '\n' :: r') : fs = fs' := by
  induction fs generalizing fs' with
  | nil =>
    cases fs' with
    | nil => rfl
    | cons f' fs' => exact absurd (List.cons.inj h).1 (by decide)
  | cons f fs ih =>
    cases fs' with
    | nil => exact absurd (List.cons.inj h).1 (by decide)
    | cons f' fs' =>
      obtain ⟨k, t⟩ := f
      obtain ⟨k', t'⟩ := f'
      change ',' :: renderFields depth ((k, .text t) :: textFields fs) ++ '\n' :: r
        = ',' :: renderFields depth ((k', .text t') :: textFields fs') ++ '\n' :: r' at h
      rw [renderFields_cons, renderFields_cons] at h
      simp only [List.cons_append, List.append_assoc, List.cons.injEq, true_and,
        List.append_cancel_left_eq] at h
      obtain ⟨hname, hvalue⟩ := string_append_inj h
      simp only [render, List.nil_append, List.cons.injEq, true_and] at hvalue
      obtain ⟨htext, hmore⟩ := string_append_inj hvalue
      rw [hname, htext, ih hmore]

/-- The document of a record of texts tells its fields. -/
theorem document_textFields_inj {f f' : Text × Text} {fs fs' : List (Text × Text)}
    (h : document (.record (textFields (f :: fs))) = document (.record (textFields (f' :: fs')))) :
    f :: fs = f' :: fs' := by
  obtain ⟨k, t⟩ := f
  obtain ⟨k', t'⟩ := f'
  rw [textFields, textFields, List.map_cons, List.map_cons, document_record_cons,
    document_record_cons] at h
  have hmore : moreFields 1 (textFields ((k, t) :: fs)) ++ '\n' :: ['}']
      = moreFields 1 (textFields ((k', t') :: fs')) ++ '\n' :: ['}'] :=
    congrArg (',' :: ·) (List.cons.inj h).2
  exact moreFields_textFields_inj hmore

end PlainSearch.Json
