/-
  Proofs/Json/Number.lean --- a number in a document is read back as the number it is of.

  WHAT THIS FILE IS FOR.  A reader of documents tells an integer from a double by the
  spelling: a double has a point or an exponent.  An integer of any size is read back as it
  is (`readNumber?_ofInt`), and so is a finite double, whichever of its notations it has
  (`readNumber?_finite`).  Both hold whatever stands behind the number, as long as that
  does not go on with it (`EndsNumber`); in a document it is a comma, a new line or
  nothing.

  The words for the infinities and the not-a-number are no numbers; what becomes of a
  document that has one of them, `Proofs/Json/Document.lean` says.
-/
import PlainSearch.Json.Reader
import PlainSearch.Json.Writer
import PlainSearch.Proofs.Number.Notation

set_option autoImplicit false

namespace PlainSearch.Json

open Text (isAsciiDigit)

/-- A number ends in front of the text: what stands there does not go on with it. -/
def EndsNumber (r : Text) : Prop :=
  ∀ c ∈ r.head?, isAsciiDigit c = false ∧ c ≠ '.' ∧ c ≠ 'e' ∧ c ≠ 'E'

theorem endsNumber_cons {c : Char} (hc : c = ',' ∨ c = '\n') (r : Text) :
    EndsNumber (c :: r) := by
  simp only [EndsNumber, List.head?_cons, Option.mem_def, Option.some.injEq, forall_eq']
  rcases hc with rfl | rfl <;> decide

/-! ## The parts of a number -/

section

variable {ds r : Text} {s : Double.Spelled}

theorem readWhole?_run (hne : ds ≠ []) (hdigit : ∀ c ∈ ds, isAsciiDigit c = true)
    (hhead : ds = ['0'] ∨ ds.head? ≠ some '0') (hr : ∀ c ∈ r.head?, isAsciiDigit c = false) :
    readWhole? (ds ++ r) = some (ds, r) := by
  unfold readWhole?
  rw [Text.takeWhile_run hdigit hr, Text.dropWhile_run hdigit hr]
  split
  · exact absurd rfl hne
  · rfl
  · next hlong =>
    rcases hhead with h | h
    · exact absurd (List.cons.inj h).2 hlong
    · exact absurd rfl h
  · rfl

theorem readDigits?_run (hne : ds ≠ []) (hdigit : ∀ c ∈ ds, isAsciiDigit c = true)
    (hr : ∀ c ∈ r.head?, isAsciiDigit c = false) : readDigits? (ds ++ r) = some (ds, r) := by
  unfold readDigits?
  rw [Text.takeWhile_run hdigit hr, Text.dropWhile_run hdigit hr]
  split
  · exact absurd rfl hne
  · rfl

theorem readFraction?_end (hr : ∀ c ∈ r.head?, c ≠ '.') : readFraction? r = some ([], r) := by
  unfold readFraction?
  split
  · exact absurd rfl (hr '.' rfl)
  · rfl

theorem readExponent?_end (hr : EndsNumber r) : readExponent? r = some ([], r) := by
  cases r with
  | nil => rfl
  | cons c r =>
    obtain ⟨-, -, he, hE⟩ := hr c rfl
    rw [readExponent?, if_neg (not_or.2 ⟨he, hE⟩)]

theorem head?_tail_append (hr : EndsNumber r) :
    ∀ c ∈ (s.tail ++ r).head?, isAsciiDigit c = false ∧ c ≠ '.' := by
  unfold Double.Spelled.tail
  split
  · exact fun c hc => ⟨(hr c hc).1, (hr c hc).2.1⟩
  · simp only [List.cons_append, List.head?_cons, Option.mem_def, Option.some.injEq, forall_eq']
    decide

theorem readFraction?_fraction (hs : s.IsProper) (hr : EndsNumber r) :
    readFraction? (s.fraction ++ (s.tail ++ r)) = some (s.fraction, s.tail ++ r) := by
  unfold Double.Spelled.fraction
  split
  · exact readFraction?_end fun c hc => (head?_tail_append hr c hc).2
  · next hpart =>
    rw [List.cons_append, readFraction?, readDigits?_run hpart hs.isAsciiDigit_of_mem_part
      fun c hc => (head?_tail_append hr c hc).1]
    rfl

theorem readExponent?_tail (hs : s.IsProper) (hr : EndsNumber r) :
    readExponent? (s.tail ++ r) = some (s.tail, r) := by
  unfold Double.Spelled.tail
  cases hpower : s.power with
  | none => exact readExponent?_end hr
  | some p =>
    obtain ⟨negative, ds⟩ := p
    obtain ⟨hne, hdigits⟩ := hs.power_digits _ hpower
    have hread : readDigits? (ds ++ r) = some (ds, r) :=
      readDigits?_run hne hdigits fun c hc => (hr c hc).1
    cases negative <;> simp [readExponent?, readExponentSign, hread]

end

/-! ## Numbers -/

/-- A natural number is read back, with the sign it had. -/
theorem readMagnitude?_ofNat (negative : Bool) (n : Nat) {r : Text} (hr : EndsNumber r) :
    readMagnitude? negative (Text.ofNat n ++ r)
      = some (.int (if negative then -(n : ℤ) else n), r) := by
  have hhead : Text.ofNat n = ['0'] ∨ (Text.ofNat n).head? ≠ some '0' := by
    rcases Nat.eq_zero_or_pos n with rfl | hn
    · exact .inl rfl
    · exact .inr (Text.head?_ofNat_ne hn)
  unfold readMagnitude?
  rw [readWhole?_run (Text.ofNat_ne_nil n) (fun c => Text.isAsciiDigit_of_mem_ofNat) hhead
    fun c hc => (hr c hc).1]
  dsimp only
  rw [readFraction?_end fun c hc => (hr c hc).2.1]
  dsimp only
  rw [readExponent?_end hr]
  dsimp only
  rw [if_pos rfl, Text.numeralValue_ofNat]

/-- A number with a point or an exponent is read as the double that its text stands for. -/
theorem readMagnitude?_spelled (negative : Bool) {s : Double.Spelled} (hs : s.IsProper) {r : Text}
    (hr : EndsNumber r) :
    readMagnitude? negative (s.text ++ r)
      = (Double.readMagnitude? negative s.text).map fun x => (.real x, r) := by
  have hwhole : ∀ c ∈ (s.fraction ++ (s.tail ++ r)).head?, isAsciiDigit c = false := by
    unfold Double.Spelled.fraction
    split
    · exact fun c hc => (head?_tail_append hr c hc).1
    · simp only [List.cons_append, List.head?_cons, Option.mem_def, Option.some.injEq, forall_eq']
      decide
  have htext : s.text ++ r = s.whole ++ (s.fraction ++ (s.tail ++ r)) := by
    simp only [Double.Spelled.text, List.append_assoc]
  unfold readMagnitude?
  rw [htext, readWhole?_run hs.whole_ne_nil hs.isAsciiDigit_of_mem_whole hs.whole_head hwhole]
  dsimp only
  rw [readFraction?_fraction hs hr]
  dsimp only
  rw [readExponent?_tail hs hr]
  split
  · next h => exact absurd h (Option.some_ne_none _)
  · next htail =>
    obtain ⟨hnil, rfl⟩ := Prod.mk.inj (Option.some.inj htail)
    have hfraction : s.fraction ≠ [] := by
      unfold Double.Spelled.fraction
      rcases hs.isReal with hpart | hpower
      · rw [if_neg hpart]
        exact List.cons_ne_nil _ _
      · -- an exponent has a letter at least
        obtain ⟨p, hp⟩ := Option.ne_none_iff_exists'.1 hpower
        rw [Double.Spelled.tail, hp] at hnil
        exact absurd hnil (List.cons_ne_nil _ _)
    rw [if_neg hfraction, Double.Spelled.text, hnil, List.append_nil]
  · next htail =>
    obtain ⟨rfl, rfl⟩ := Prod.mk.inj (Option.some.inj htail)
    rw [List.append_assoc, Double.Spelled.text]

theorem readNumber?_minus (t : Text) : readNumber? ('-' :: t) = readMagnitude? true t := rfl

theorem readNumber?_digit {c : Char} (hc : isAsciiDigit c = true) (t : Text) :
    readNumber? (c :: t) = readMagnitude? false (c :: t) := by
  unfold readNumber?
  split
  · next h =>
    rw [(List.cons.inj h).1] at hc
    exact absurd hc (by decide)
  · rfl

/-- A text that begins with a digit, as the notation of every number without a sign does. -/
def StartsWithDigit (t : Text) : Prop := ∃ c u, t = c :: u ∧ isAsciiDigit c = true

theorem startsWithDigit_append {a : Text} (hne : a ≠ []) (ha : ∀ c ∈ a, isAsciiDigit c = true)
    (b : Text) : StartsWithDigit (a ++ b) := by
  obtain ⟨c, u, rfl⟩ := List.exists_cons_of_ne_nil hne
  exact ⟨c, u ++ b, rfl, ha c (List.mem_cons_self)⟩

theorem startsWithDigit_decimalText (d : Decimal) : StartsWithDigit (Double.decimalText d) := by
  obtain ⟨s, hs, htext, -⟩ := Double.isSpelling_decimalText d
  rw [← htext]
  exact startsWithDigit_append hs.whole_ne_nil hs.isAsciiDigit_of_mem_whole _

/-- An integer is read back. -/
theorem readNumber?_ofInt (n : ℤ) {r : Text} (hr : EndsNumber r) :
    readNumber? (Text.ofInt n ++ r) = some (.int n, r) := by
  cases n with
  | ofNat n =>
    obtain ⟨c, u, hcons, hc⟩ := startsWithDigit_append (Text.ofNat_ne_nil n)
      (fun c => Text.isAsciiDigit_of_mem_ofNat) r
    change readNumber? (Text.ofNat n ++ r) = _
    rw [hcons, readNumber?_digit hc, ← hcons, readMagnitude?_ofNat false n hr]
    rfl
  | negSucc n =>
    change readNumber? ('-' :: (Text.ofNat (n + 1) ++ r)) = _
    rw [readNumber?_minus, readMagnitude?_ofNat true (n + 1) hr]
    rfl

/-- A finite double is read back. -/
theorem readNumber?_finite (negative : Bool) (e : Fin 2047) (f : Fin Double.fractionCount)
    {r : Text} (hr : EndsNumber r) :
    readNumber? ((Double.finite negative e f).toTextWith spelling ++ r)
      = some (.real (.finite negative e f), r) := by
  have hread : readMagnitude? negative (Double.decimalText (Double.shortest negative e f) ++ r)
      = some (.real (.finite negative e f), r) := by
    have hback := Double.readMagnitude?_decimalText negative e f
    obtain ⟨s, hs, htext, -⟩ := Double.isSpelling_decimalText (Double.shortest negative e f)
    rw [← htext] at hback ⊢
    rw [readMagnitude?_spelled negative hs hr, hback]
    rfl
  cases negative with
  | true => exact hread
  | false =>
    obtain ⟨c, u, hcons, hc⟩ := startsWithDigit_decimalText (Double.shortest false e f)
    change readNumber? (Double.decimalText (Double.shortest false e f) ++ r) = _
    rw [hcons, List.cons_append] at hread ⊢
    rw [readNumber?_digit hc, hread]

end PlainSearch.Json
