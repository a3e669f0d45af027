/-
  Proofs/Request/Occurrence.lean --- where a clause stands in a text, and its numeral there.

  WHAT THIS FILE IS FOR.  A clause is looked for from the left, by reading: at each place its
  keywords one after the other, then blanks, then a numeral.  Here the same is said of the
  text, without reading it:

      text  =  front  keyword  gap  numeral  rest                      (`Clause.Occurs`)

  where `front` does not end in a word character, the keyword is spelled with gaps between
  its words, and the numeral is what it has to be in front of the rest.  Its first such
  place supplies the numeral of a clause (`Clause.exists_first?_iff`).

  For this the keywords of a clause have to differ in their first characters, no word may
  begin with a blank (`Clause.IsClear`), and no numeral may either.  What the numerals are
  in front of the rest, `NumeralForm.Reads` says for each form: four digits, whatever
  follows; the longest amount; digits that end a word.
-/
import PlainSearch.Proofs.Request.Clause
import PlainSearch.Proofs.Text.Blank

set_option autoImplicit false

namespace PlainSearch

/-! ## Numerals -/

namespace NumeralForm

open Text (isDigit isWordChar IsDigits IsYear IsAmount)

/-- What a form reads, said without it: `R n r` if `n` is the numeral in front of `r`.  A numeral
begins with a digit. -/
structure Reads (f : NumeralForm) (R : Text → Text → Prop) : Prop where
  /-- the form reads these numerals, and no others -/
  eq_some_iff : ∀ t n, f t = some n ↔ ∃ r, t = n ++ r ∧ R n r
  exists_digit : ∀ n r, R n r → ∃ c u, n = c :: u ∧ isDigit c = true

theorem exists_digit_of_isDigits {n : Text} (h : IsDigits n) :
    ∃ c u, n = c :: u ∧ isDigit c = true := by
  obtain ⟨c, u, rfl⟩ := List.exists_cons_of_ne_nil h.1
  exact ⟨c, u, rfl, h.2 c List.mem_cons_self⟩

theorem digits_eq_some_iff {t n : Text} :
    digits t = some n ↔ ∃ r, t = n ++ r ∧ IsDigits n ∧ ∀ c ∈ r.head?, isDigit c = false := by
  constructor
  · intro h
    have hn := isDigits_of_digits h
    unfold digits at h
    split at h
    · cases h
    · cases h
      refine ⟨t.dropWhile isDigit, List.takeWhile_append_dropWhile.symm, hn, fun c hc => ?_⟩
      have hstop := List.head?_dropWhile_not isDigit t
      rw [Option.mem_def.1 hc] at hstop
      simpa using hstop
  · rintro ⟨r, rfl, ⟨hne, hn⟩, hr⟩
    unfold digits
    rw [Text.takeWhile_run hn hr]
    split
    · exact absurd rfl hne
    · rfl

/-- Where a digit stands, digits are read. -/
theorem exists_digits_cons {c : Char} (hc : isDigit c = true) (t : Text) :
    ∃ n, digits (c :: t) = some n := by
  refine ⟨c :: t.takeWhile isDigit, ?_⟩
  unfold digits
  rw [List.takeWhile_cons_of_pos hc]

/-- Four digits, whatever follows them. -/
theorem reads_year : Reads year fun n _ => IsYear n := by
  constructor
  · intro t n
    constructor
    · intro h
      have hn := isYear_of_year h
      simp only [year] at h
      split at h
      · cases h
        exact ⟨t.drop 4, (List.take_append_drop 4 t).symm, hn⟩
      · cases h
    · rintro ⟨r, rfl, hlength, hn⟩
      have htake : (n ++ r).take 4 = n := by rw [← hlength, List.take_left]
      simp only [year, htake]
      exact if_pos ⟨hlength, List.all_eq_true.2 hn⟩
  · rintro n r ⟨hlength, hn⟩
    apply exists_digit_of_isDigits
    refine ⟨?_, hn⟩
    rintro rfl
    cases hlength

/-- Digits that end a word. -/
theorem reads_whole : Reads whole fun n r => IsDigits n ∧ ∀ c ∈ r.head?, isWordChar c = false := by
  constructor
  · intro t n
    constructor
    · intro h
      unfold whole at h
      split at h
      · next hend =>
        obtain ⟨r, rfl, hn, hr⟩ := digits_eq_some_iff.1 h
        refine ⟨r, rfl, hn, fun c hc => ?_⟩
        rw [Text.dropWhile_run hn.2 hr, Text.atWordEnd, Option.mem_def.1 hc] at hend
        simpa using hend
      · cases h
    · rintro ⟨r, rfl, hn, hr⟩
      have hstop : ∀ c ∈ r.head?, isDigit c = false := by
        intro c hc
        by_contra hdigit
        have hword := Text.isWordChar_of_isDigit (Bool.not_eq_false _ ▸ hdigit)
        rw [hr c hc] at hword
        cases hword
      have hend : Text.atWordEnd r = true := by
        unfold Text.atWordEnd
        cases hhead : r.head? with
        | none => rfl
        | some c => simp [hr c hhead]
      unfold whole
      rw [Text.dropWhile_run hn.2 hstop, if_pos hend]
      exact digits_eq_some_iff.2 ⟨r, rfl, hn, hstop⟩
  · rintro n r ⟨hn, -⟩
    exact exists_digit_of_isDigits hn

/-! ## Amounts -/

section

variable {m whole part r s : Text}

/-- A prefix of digits is no longer than the run of digits in front. -/
theorem length_le_of_digits (hm : ∀ c ∈ m, isDigit c = true)
    (hr : ∀ c ∈ r.head?, isDigit c = false) (h : m ++ s = whole ++ r) :
    m.length ≤ whole.length := by
  rcases List.append_eq_append_iff.1 h with ⟨u, rfl, -⟩ | ⟨u, rfl, hu⟩
  · rw [List.length_append]
    exact Nat.le_add_right _ _
  · cases u with
    | nil => rw [List.append_nil]
    | cons c u =>
      have hdigit := hm c (List.mem_append_right _ List.mem_cons_self)
      rw [hr c (by rw [hu]; rfl)] at hdigit
      cases hdigit

/-- The run of digits in front is one and the same. -/
theorem eq_of_digits_append (hm : ∀ c ∈ m, isDigit c = true)
    (hwhole : ∀ c ∈ whole, isDigit c = true) (hs : ∀ c ∈ s.head?, isDigit c = false)
    (hr : ∀ c ∈ r.head?, isDigit c = false) (h : m ++ s = whole ++ r) : m = whole ∧ s = r := by
  have hrun := congrArg (List.takeWhile isDigit) h
  rw [Text.takeWhile_run hm hs, Text.takeWhile_run hwhole hr] at hrun
  rw [hrun] at h
  exact ⟨hrun, List.append_cancel_left h⟩

theorem isDigit_head?_point (t : Text) : ∀ c ∈ ('.' :: t).head?, isDigit c = false := by
  simp only [List.head?_cons, Option.mem_def, Option.some.injEq, forall_eq']
  decide

/-- A text is the longest amount in front of another. -/
def IsLongestAmount (n r : Text) : Prop :=
  IsAmount n ∧ ∀ m s, m ++ s = n ++ r → IsAmount m → m.length ≤ n.length

/-- Digits are the longest amount unless a point with digits behind it follows. -/
theorem isLongestAmount_of_digits (hn : IsDigits whole) (hr : ∀ c ∈ r.head?, isDigit c = false)
    (hpoint : ∀ t n, r = '.' :: t → digits t ≠ some n) : IsLongestAmount whole r := by
  refine ⟨.inl hn, fun m s h hm => ?_⟩
  rcases hm with hm | ⟨w, p, rfl, hw, hp⟩
  · exact length_le_of_digits hm.2 hr h
  · rw [List.append_assoc] at h
    obtain ⟨rfl, hrest⟩ := eq_of_digits_append hw.2 hn.2 (isDigit_head?_point _) hr h
    -- the digits behind the point are read, as far as they go
    obtain ⟨c, u, rfl, hc⟩ := exists_digit_of_isDigits hp
    obtain ⟨n, hn'⟩ := exists_digits_cons hc (u ++ s)
    exact absurd hn' (hpoint _ n hrest.symm)

/-- Digits with a point and all the digits behind it are the longest amount. -/
theorem isLongestAmount_of_point (hwhole : IsDigits whole) (hpart : IsDigits part)
    (hr : ∀ c ∈ r.head?, isDigit c = false) : IsLongestAmount (whole ++ '.' :: part) r := by
  refine ⟨.inr ⟨whole, part, rfl, hwhole, hpart⟩, fun m s h hm => ?_⟩
  rw [List.append_assoc] at h
  rcases hm with hm | ⟨w, p, rfl, hw, hp⟩
  · have hle := length_le_of_digits hm.2 (isDigit_head?_point _) h
    rw [List.length_append]
    omega
  · rw [List.append_assoc] at h
    obtain ⟨rfl, hrest⟩ :=
      eq_of_digits_append hw.2 hwhole.2 (isDigit_head?_point _) (isDigit_head?_point _) h
    have hle := length_le_of_digits hp.2 hr (List.cons.inj hrest).2
    simp only [List.length_append, List.length_cons]
    omega

end

theorem isLongestAmount_of_amount {t n : Text} (h : amount t = some n) :
    ∃ r, t = n ++ r ∧ IsLongestAmount n r := by
  obtain ⟨w, hw, hn⟩ := Option.map_eq_some_iff.1 h
  obtain ⟨r, rfl, hwhole, hr⟩ := digits_eq_some_iff.1 hw
  rw [Text.dropWhile_run hwhole.2 hr] at hn
  split at hn
  · next u =>
    split at hn
    · next part hpart =>
      cases hn
      obtain ⟨s, rfl, hdigits, hs⟩ := digits_eq_some_iff.1 hpart
      refine ⟨s, by simp, ?_⟩
      have hlongest := isLongestAmount_of_point hwhole hdigits hs
      simpa using hlongest
    · next hnone =>
      cases hn
      refine ⟨_, rfl, isLongestAmount_of_digits hwhole hr fun t n ht => ?_⟩
      rw [← (List.cons.inj ht).2, hnone]
      exact (Option.some_ne_none n).symm
  · next hpoint =>
    cases hn
    exact ⟨_, rfl, isLongestAmount_of_digits hwhole hr fun t n ht => absurd ht (hpoint t)⟩

theorem exists_digit_of_isAmount {n : Text} (h : IsAmount n) :
    ∃ c u, n = c :: u ∧ isDigit c = true := by
  rcases h with h | ⟨w, p, rfl, hw, -⟩
  · exact exists_digit_of_isDigits h
  · obtain ⟨c, u, rfl, hc⟩ := exists_digit_of_isDigits hw
    exact ⟨c, u ++ '.' :: p, rfl, hc⟩

/-- The longest amount. -/
theorem reads_amount : Reads amount IsLongestAmount := by
  constructor
  · intro t n
    constructor
    · exact isLongestAmount_of_amount
    · rintro ⟨r, rfl, hn, hlongest⟩
      -- an amount is read, and of two longest ones each is as long as the other
      obtain ⟨n', hn'⟩ : ∃ n', amount (n ++ r) = some n' := by
        obtain ⟨c, u, rfl, hc⟩ := exists_digit_of_isAmount hn
        obtain ⟨ds, hds⟩ := exists_digits_cons hc (u ++ r)
        rw [← Option.isSome_iff_exists, amount, List.cons_append, hds]
        rfl
      obtain ⟨r', hsplit, hamount, hlongest'⟩ := isLongestAmount_of_amount hn'
      have hle := hlongest n' r' hsplit.symm hamount
      have hge := hlongest' n r hsplit hn
      rw [hn', (List.append_inj hsplit (Nat.le_antisymm hge hle)).1]
  · rintro n r ⟨hn, -⟩
    exact exists_digit_of_isAmount hn

end NumeralForm

/-! ## Keywords -/

namespace Keyword

/-- A text spells a keyword: its words in their order, with a gap between neighbours. -/
inductive Spelled : Keyword → Text → Prop
  | word (w : Text) : Spelled [w] w
  | more {w w' g t : Text} {ws : Keyword} (hg : Text.IsGap g) (h : Spelled (w' :: ws) t) :
      Spelled (w :: w' :: ws) (w ++ (g ++ t))

/-- A keyword has words, and none of them is empty or begins with a blank. -/
def IsProper (k : Keyword) : Prop :=
  k ≠ [] ∧ ∀ w ∈ k, w ≠ [] ∧ ∀ c ∈ w.head?, Text.isBlank c = false

/-- The first character of a keyword. -/
def first (k : Keyword) : Option Char := k.head?.bind List.head?

variable {k : Keyword} {t kw r : Text}

/-- What spells a keyword begins with its first character, which is no blank. -/
theorem Spelled.head?_eq (h : k.Spelled kw) (hk : k.IsProper) :
    ∃ c, k.first = some c ∧ kw.head? = some c ∧ Text.isBlank c = false := by
  cases h with
  | word w =>
    obtain ⟨hne, hhead⟩ := hk.2 kw List.mem_cons_self
    obtain ⟨c, u, rfl⟩ := List.exists_cons_of_ne_nil hne
    exact ⟨c, rfl, rfl, hhead c rfl⟩
  | more hg h =>
    obtain ⟨hne, hhead⟩ := hk.2 _ List.mem_cons_self
    obtain ⟨c, u, rfl⟩ := List.exists_cons_of_ne_nil hne
    exact ⟨c, rfl, rfl, hhead c rfl⟩

theorem IsProper.tail {w w' : Text} {ws : Keyword} (h : IsProper (w :: w' :: ws)) :
    IsProper (w' :: ws) :=
  ⟨List.cons_ne_nil _ _, fun v hv => h.2 v (List.mem_cons_of_mem w hv)⟩

/-- A keyword is read where it is spelled. -/
theorem read?_eq_some_iff (hk : k.IsProper) :
    k.read? t = some (kw, r) ↔ k.Spelled kw ∧ t = kw ++ r := by
  induction k generalizing t kw with
  | nil => exact absurd rfl hk.1
  | cons w ws ih =>
    cases ws with
    | nil =>
      simp only [read?, Option.map_eq_some_iff, Text.stripPrefix?_eq_some_iff, Prod.mk.injEq]
      constructor
      · rintro ⟨u, rfl, rfl, rfl⟩
        exact ⟨.word _, rfl⟩
      · rintro ⟨hspelled, rfl⟩
        cases hspelled
        exact ⟨r, rfl, rfl, rfl⟩
    | cons w' ws =>
      constructor
      · intro h
        unfold read? at h
        split at h
        · cases h
        · next u hu =>
          split at h
          · cases h
          · next g u' hgap =>
            obtain ⟨p, hp, heq⟩ := Option.map_eq_some_iff.1 h
            cases heq
            obtain ⟨rfl, hg, -⟩ := Text.gap?_eq_some_iff.1 hgap
            obtain ⟨hspelled, rfl⟩ := (ih hk.tail).1 hp
            refine ⟨?_, ?_⟩
            · rw [List.append_assoc]
              exact .more hg hspelled
            · rw [Text.stripPrefix?_eq_some_iff.1 hu]
              simp only [List.append_assoc]
      · rintro ⟨hspelled, rfl⟩
        cases hspelled with
        | @more _ _ g t _ hg hspelled =>
          have hstrip : Text.stripPrefix? w (w ++ (g ++ (t ++ r))) = some (g ++ (t ++ r)) :=
            Text.stripPrefix?_eq_some_iff.2 rfl
          have hgap : Text.gap? (g ++ (t ++ r)) = some (g, t ++ r) := by
            obtain ⟨c, -, hc, hblank⟩ := hspelled.head?_eq hk.tail
            refine Text.gap?_eq_some_iff.2 ⟨rfl, hg, fun a ha => ?_⟩
            rw [List.head?_append, hc] at ha
            cases ha
            exact hblank
          have hread : read? (w' :: ws) (t ++ r) = some (t, r) := (ih hk.tail).2 ⟨hspelled, rfl⟩
          rw [List.append_assoc, List.append_assoc]
          simp only [read?, hstrip, hgap, hread, Option.map_some, List.append_assoc]

end Keyword

/-! ## Places -/

namespace Clause

/-- The keywords of a clause are proper, and differ in their first characters. -/
structure IsClear (keywords : List Keyword) : Prop where
  proper : ∀ k ∈ keywords, k.IsProper
  /-- the first character tells the keyword -/
  eq_of_first : ∀ k ∈ keywords, ∀ k' ∈ keywords, k.first = k'.first → k = k'

/-- A clause stands at the place `p` of a text with the numeral `n`: no word character is in front,
and behind that come a keyword, a gap, and the numeral. -/
def Occurs (keywords : List Keyword) (R : Text → Text → Prop) (text : Text) (p : Nat) (n : Text) :
    Prop :=
  ∃ front k kw gap rest, text = front ++ (kw ++ (gap ++ (n ++ rest))) ∧ front.length = p ∧
    (∀ c ∈ front.getLast?, Text.isWordChar c = false) ∧ k ∈ keywords ∧ k.Spelled kw ∧
    Text.IsGap gap ∧ R n rest

/-- A clause stands in a text, and `n` is its numeral at the first place where it does. -/
def OccursFirst (keywords : List Keyword) (R : Text → Text → Prop) (text n : Text) : Prop :=
  ∃ p, Occurs keywords R text p n ∧ ∀ q m, Occurs keywords R text q m → p ≤ q

variable {c : Clause} {R : Text → Text → Prop} {t n : Text} {before : Option Char}

/-- A clause is read with a keyword where that is spelled, with a gap and a numeral behind it. -/
theorem readWith?_eq_some_iff {k : Keyword} {o : Occurrence} (hk : k.IsProper)
    (hR : c.numeral.Reads R) :
    c.readWith? k t = some o ↔
      ∃ rest, t = o.keyword ++ (o.gap ++ (o.numeral ++ rest)) ∧ k.Spelled o.keyword ∧
        Text.IsGap o.gap ∧ R o.numeral rest := by
  constructor
  · intro h
    unfold readWith? at h
    split at h
    · cases h
    · next kw u hread =>
      split at h
      · cases h
      · next g u' hgap =>
        obtain ⟨n, hn, rfl⟩ := Option.map_eq_some_iff.1 h
        obtain ⟨hspelled, rfl⟩ := (Keyword.read?_eq_some_iff hk).1 hread
        obtain ⟨rfl, hg, -⟩ := Text.gap?_eq_some_iff.1 hgap
        obtain ⟨rest, rfl, hnumeral⟩ := (hR.eq_some_iff _ _).1 hn
        exact ⟨rest, rfl, hspelled, hg, hnumeral⟩
  · obtain ⟨kw, g, n⟩ := o
    rintro ⟨rest, rfl, hspelled, hg, hnumeral⟩
    have hread : k.read? (kw ++ (g ++ (n ++ rest))) = some (kw, g ++ (n ++ rest)) :=
      (Keyword.read?_eq_some_iff hk).2 ⟨hspelled, rfl⟩
    have hgap : Text.gap? (g ++ (n ++ rest)) = some (g, n ++ rest) := by
      obtain ⟨a, u, rfl, ha⟩ := hR.exists_digit n rest hnumeral
      refine Text.gap?_eq_some_iff.2 ⟨rfl, hg, fun b hb => ?_⟩
      cases hb
      exact Text.isBlank_of_isDigit ha
    have hn : c.numeral (n ++ rest) = some n := (hR.eq_some_iff _ _).2 ⟨rest, rfl, hnumeral⟩
    simp only [readWith?, hread, hgap, hn, Option.map_some]

/-- No two keywords of a clear clause can be read in front of a text. -/
theorem eq_of_readWith? {k k' : Keyword} {o o' : Occurrence} (hclear : IsClear c.keywords)
    (hR : c.numeral.Reads R) (hk : k ∈ c.keywords) (hk' : k' ∈ c.keywords)
    (h : c.readWith? k t = some o) (h' : c.readWith? k' t = some o') : k = k' := by
  obtain ⟨rest, ht, hspelled, -, -⟩ := (readWith?_eq_some_iff (hclear.proper k hk) hR).1 h
  obtain ⟨rest', ht', hspelled', -, -⟩ := (readWith?_eq_some_iff (hclear.proper k' hk') hR).1 h'
  obtain ⟨a, ha, hhead, -⟩ := hspelled.head?_eq (hclear.proper k hk)
  obtain ⟨a', ha', hhead', -⟩ := hspelled'.head?_eq (hclear.proper k' hk')
  have hfirst : t.head? = k.first := by rw [ht, List.head?_append, hhead, Option.some_or, ha]
  have hfirst' : t.head? = k'.first := by rw [ht', List.head?_append, hhead', Option.some_or, ha']
  exact hclear.eq_of_first k hk k' hk' (hfirst.symm.trans hfirst')

/-- A clause is read in front of a text with any of its keywords, as no two of them can stand
there. -/
theorem at?_eq_some_iff {o : Occurrence} (hclear : IsClear c.keywords) (hR : c.numeral.Reads R) :
    c.at? before t = some o ↔ (∀ a ∈ before, Text.isWordChar a = false) ∧
      ∃ k ∈ c.keywords, ∃ rest, t = o.keyword ++ (o.gap ++ (o.numeral ++ rest)) ∧
        k.Spelled o.keyword ∧ Text.IsGap o.gap ∧ R o.numeral rest := by
  have hstart : Text.atWordStart before = true ↔ ∀ a ∈ before, Text.isWordChar a = false := by
    cases before <;> simp [Text.atWordStart]
  constructor
  · intro h
    unfold at? at h
    split at h
    · next hbefore =>
      obtain ⟨k, hk, hread⟩ := List.exists_of_findSome?_eq_some h
      exact ⟨hstart.1 hbefore, k, hk, (readWith?_eq_some_iff (hclear.proper k hk) hR).1 hread⟩
    · cases h
  · rintro ⟨hbefore, k, hk, h⟩
    have hread := (readWith?_eq_some_iff (hclear.proper k hk) hR).2 h
    unfold at?
    rw [if_pos (hstart.2 hbefore)]
    -- some keyword is read, and that can be no other than this one
    obtain ⟨o', ho'⟩ : ∃ o', (c.keywords.findSome? fun k => c.readWith? k t) = some o' := by
      rw [← Option.isSome_iff_exists, List.findSome?_isSome_iff]
      exact ⟨k, hk, by rw [hread]; rfl⟩
    obtain ⟨k', hk', hread'⟩ := List.exists_of_findSome?_eq_some ho'
    cases eq_of_readWith? hclear hR hk hk' hread hread'
    rw [ho', ← hread', hread]

/-- No clause is read where the text is over. -/
theorem at?_nil (hclear : IsClear c.keywords) (hR : c.numeral.Reads R) :
    c.at? before [] = none := by
  rw [Option.eq_none_iff_forall_ne_some]
  intro o ho
  obtain ⟨-, k, hk, rest, ht, hspelled, -, -⟩ := (at?_eq_some_iff hclear hR).1 ho
  obtain ⟨a, -, hhead, -⟩ := hspelled.head?_eq (hclear.proper k hk)
  have hnil := (List.append_eq_nil_iff.1 ht.symm).1
  rw [hnil] at hhead
  cases hhead

/-- The character in front of what follows `a :: f`: the last of `f`, or else `a`. -/
theorem getLast?_cons_or (before : Option Char) (a : Char) (f : Text) :
    (a :: f).getLast?.or before = f.getLast?.or (some a) := by
  rw [List.getLast?_cons]
  cases f.getLast? <;> rfl

/-- The leftmost occurrence is the one that is read at a place, if nothing is read at the places
in front of it. -/
theorem firstAfter?_eq_some_iff {o : Occurrence} (hclear : IsClear c.keywords)
    (hR : c.numeral.Reads R) :
    c.firstAfter? before t = some o ↔
      ∃ front back, t = front ++ back ∧ c.at? (front.getLast?.or before) back = some o ∧
        ∀ f b, t = f ++ b → f.length < front.length → c.at? (f.getLast?.or before) b = none := by
  induction t generalizing before with
  | nil =>
    constructor
    · intro h
      cases h
    · rintro ⟨front, back, ht, hat, -⟩
      obtain ⟨rfl, rfl⟩ := List.append_eq_nil_iff.1 ht.symm
      rw [at?_nil hclear hR] at hat
      cases hat
  | cons a t ih =>
    unfold firstAfter?
    split
    · next o' hat =>
      constructor
      · rintro ⟨⟩
        exact ⟨[], a :: t, rfl, hat, fun f b _ hf => absurd hf (Nat.not_lt_zero _)⟩
      · rintro ⟨front, back, ht, hat', hnone⟩
        cases front with
        | nil =>
          cases ht
          exact hat.symm.trans hat'
        | cons a' front =>
          exact absurd (hat.symm.trans (hnone [] (a :: t) rfl (Nat.succ_pos _))) (by simp)
    · next hat =>
      refine ih.trans ?_
      constructor
      · rintro ⟨front, back, rfl, hat', hnone⟩
        refine ⟨a :: front, back, rfl, by rwa [getLast?_cons_or], ?_⟩
        intro f b hsplit hf
        cases f with
        | nil =>
          cases hsplit
          exact hat
        | cons a' f =>
          obtain ⟨rfl, hrest⟩ := List.cons.inj hsplit
          rw [getLast?_cons_or]
          exact hnone f b hrest (Nat.lt_of_succ_lt_succ hf)
      · rintro ⟨front, back, ht, hat', hnone⟩
        cases front with
        | nil =>
          cases ht
          exact absurd (hat.symm.trans hat') (by simp)
        | cons a' front =>
          obtain ⟨rfl, rfl⟩ := List.cons.inj ht
          refine ⟨front, back, rfl, by rwa [← getLast?_cons_or], ?_⟩
          intro f b hsplit hf
          rw [← getLast?_cons_or]
          exact hnone (a :: f) b (by rw [hsplit]; rfl) (Nat.succ_lt_succ hf)

/-- A clause stands where it is read. -/
theorem occurs_iff_at? (hclear : IsClear c.keywords) (hR : c.numeral.Reads R) {p : Nat} :
    Occurs c.keywords R t p n ↔ ∃ front back o, t = front ++ back ∧ front.length = p ∧
      c.at? front.getLast? back = some o ∧ o.numeral = n := by
  constructor
  · rintro ⟨front, k, kw, gap, rest, ht, hp, hbefore, hk, hspelled, hgap, hn⟩
    exact ⟨front, _, ⟨kw, gap, n⟩, ht, hp,
      (at?_eq_some_iff hclear hR).2 ⟨hbefore, k, hk, rest, rfl, hspelled, hgap, hn⟩, rfl⟩
  · rintro ⟨front, back, o, ht, hp, hat, rfl⟩
    obtain ⟨hbefore, k, hk, rest, rfl, hspelled, hgap, hn⟩ := (at?_eq_some_iff hclear hR).1 hat
    exact ⟨front, k, o.keyword, o.gap, rest, ht, hp, hbefore, hk, hspelled, hgap, hn⟩

/-- The numeral of the leftmost occurrence is the one at the first place where the clause
stands. -/
theorem exists_first?_iff (hclear : IsClear c.keywords) (hR : c.numeral.Reads R) :
    (∃ o, c.first? t = some o ∧ o.numeral = n) ↔ OccursFirst c.keywords R t n := by
  unfold first?
  constructor
  · rintro ⟨o, ho, rfl⟩
    obtain ⟨front, back, ht, hat, hnone⟩ := (firstAfter?_eq_some_iff hclear hR).1 ho
    rw [Option.or_none] at hat
    refine ⟨front.length, (occurs_iff_at? hclear hR).2 ⟨front, back, o, ht, rfl, hat, rfl⟩, ?_⟩
    intro q m hq
    obtain ⟨front', back', o', ht', rfl, hat', -⟩ := (occurs_iff_at? hclear hR).1 hq
    by_contra hlt
    have hno := hnone front' back' ht' (Nat.lt_of_not_le hlt)
    rw [Option.or_none, hat'] at hno
    cases hno
  · rintro ⟨p, hoccurs, hleast⟩
    obtain ⟨front, back, o, ht, rfl, hat, hn⟩ := (occurs_iff_at? hclear hR).1 hoccurs
    refine ⟨o, (firstAfter?_eq_some_iff hclear hR).2 ⟨front, back, ht, ?_, ?_⟩, hn⟩
    · rwa [Option.or_none]
    · intro f b hsplit hf
      rw [Option.or_none, Option.eq_none_iff_forall_ne_some]
      intro o' ho'
      have hle := hleast f.length _ ((occurs_iff_at? hclear hR).2 ⟨f, b, o', hsplit, rfl, ho', rfl⟩)
      exact absurd hle (Nat.not_le_of_lt hf)

end Clause
end PlainSearch
