/-
  Proofs/Request/Place.lean --- where a clause is found, and why text behind it does not matter.

  WHAT THIS FILE IS FOR.  `Clause.FoundAt` is a clause at the place where it is found: the text
  in front of it, the occurrence, and the text behind it.

  WORDS BEHIND A TEXT.  A request may go on.  More words can bring a clause that was not there,
  but they cannot take the place of one that was, and for that two things have to be known:

      no clause reaches into another of its kind, because nothing inside an occurrence begins
      as a keyword does (`Clause.length_le_of_at?`), so one that the new words complete lies
      behind the one that was found;

      a numeral is the same whatever stands behind the next blank (`NumeralForm.IsLocal`).

  What this asks of a clause is gathered in `Clause.IsRegular`, and what it asks of the
  keywords can be checked (`Clause.areDistinct`).  The clauses of all conditions and that of
  the limit meet it.  So the first occurrence stays the first (`Clause.first?_append_blank`),
  and with it every condition and the limit (`Request.clauses_outlast_words`).
-/
import Mathlib.Data.List.Nodup
import PlainSearch.Proofs.Request.Occurrence
import PlainSearch.Proofs.Request.Statement

set_option autoImplicit false

namespace PlainSearch

/-! ## Numerals and what stands behind them -/

namespace NumeralForm

open Text (isDigit isWordChar IsDigits IsYear IsAmount)

/-- Numerals are made of digits and points, and depend on what follows them up to the next blank
only. -/
structure IsLocal (R : Text → Text → Prop) : Prop where
  chars : ∀ n r, R n r → ∀ a ∈ n, isDigit a = true ∨ a = '.'
  /-- what stands behind a blank makes no difference -/
  blank : ∀ n r u, R n (r ++ ' ' :: u) ↔ R n r

theorem isLocal_year : IsLocal fun n _ => IsYear n where
  chars _ _ h a ha := .inl (h.2 a ha)
  blank _ _ _ := Iff.rfl

theorem isLocal_whole : IsLocal fun n r => IsDigits n ∧ ∀ c ∈ r.head?, isWordChar c = false where
  chars _ _ h a ha := .inl (h.1.2 a ha)
  blank n r u := by
    cases r with
    | nil => exact and_congr_right fun _ => iff_of_true (by simp; decide) (by simp)
    | cons c r => exact Iff.rfl

theorem digit_or_point_of_isAmount {n : Text} (h : IsAmount n) :
    ∀ a ∈ n, isDigit a = true ∨ a = '.' := by
  rintro a ha
  rcases h with h | ⟨whole, part, rfl, hwhole, hpart⟩
  · exact .inl (h.2 a ha)
  · rcases List.mem_append.1 ha with ha | ha
    · exact .inl (hwhole.2 a ha)
    · rcases List.mem_cons.1 ha with rfl | ha
      · exact .inr rfl
      · exact .inl (hpart.2 a ha)

theorem isLocal_amount : IsLocal IsLongestAmount where
  chars _ _ h := digit_or_point_of_isAmount h.1
  blank n r u := by
    have hspace : isDigit ' ' = false ∧ ' ' ≠ '.' := by decide
    constructor
    · rintro ⟨hn, hlongest⟩
      refine ⟨hn, fun m s h hm => hlongest m (s ++ ' ' :: u) ?_ hm⟩
      rw [← List.append_assoc, h, List.append_assoc]
    · rintro ⟨hn, hlongest⟩
      refine ⟨hn, fun m s h hm => ?_⟩
      rw [← List.append_assoc] at h
      rcases List.append_eq_append_iff.1 h with ⟨s', hs', -⟩ | ⟨m', rfl, hm'⟩
      · exact hlongest m s' hs'.symm hm
      · -- an amount that reached further would have the blank in it
        cases m' with
        | nil => exact hlongest _ [] (by simp) hm
        | cons a m' =>
          obtain ⟨rfl, -⟩ := List.cons.inj hm'
          have hblank := digit_or_point_of_isAmount hm ' '
            (List.mem_append_right _ List.mem_cons_self)
          exact absurd hblank (by simp [hspace])

end NumeralForm

/-! ## Beginnings inside a text -/

namespace Text

variable {a : Char} {x y : Text}

/-- Of two ways to cut a text, the one further to the front leaves a piece of the other front. -/
theorem exists_append_of_length_le {f f' b b' : Text} (h : f ++ b = f' ++ b')
    (hle : f.length ≤ f'.length) : ∃ x, f' = f ++ x ∧ b = x ++ b' := by
  obtain ⟨x, rfl⟩ : f <+: f' :=
    List.prefix_of_prefix_length_le ⟨b, rfl⟩ ⟨b', h.symm⟩ hle
  rw [List.append_assoc] at h
  exact ⟨x, rfl, List.append_cancel_left h⟩

/-- The character `a` stands in a text behind a character that is no part of a word. -/
def BeginsInside (a : Char) (x : Text) : Prop :=
  ∃ f b, x = f ++ a :: b ∧ f ≠ [] ∧ ∀ c ∈ f.getLast?, isWordChar c = false

theorem BeginsInside.mem (h : BeginsInside a x) : a ∈ x := by
  obtain ⟨f, b, rfl, -, -⟩ := h
  exact List.mem_append_right f List.mem_cons_self

/-- Nothing begins inside a word. -/
theorem not_beginsInside_of_letters (hx : ∀ c ∈ x, isWordChar c = true) : ¬ BeginsInside a x := by
  rintro ⟨f, b, rfl, hne, hlast⟩
  have hmem := List.getLast_mem hne
  have hword := hx _ (List.mem_append_left (a :: b) hmem)
  rw [hlast _ (List.getLast?_eq_some_getLast hne)] at hword
  cases hword

theorem beginsInside_append (h : BeginsInside a (x ++ y)) :
    BeginsInside a x ∨ y.head? = some a ∨ BeginsInside a y := by
  obtain ⟨f, b, hsplit, hne, hlast⟩ := h
  rcases List.append_eq_append_iff.1 hsplit with ⟨f', rfl, rfl⟩ | ⟨b', rfl, hb⟩
  · by_cases hf' : f' = []
    · subst hf'
      exact .inr (.inl rfl)
    · rw [List.getLast?_append_of_ne_nil _ hf'] at hlast
      exact .inr (.inr ⟨f', b, rfl, hf', hlast⟩)
  · cases b' with
    | nil =>
      rw [List.nil_append] at hb
      exact .inr (.inl (by rw [← hb]; rfl))
    | cons c b' =>
      obtain ⟨rfl, -⟩ := List.cons.inj hb
      exact .inl ⟨f, b', rfl, hne, hlast⟩

end Text

open Text (BeginsInside beginsInside_append not_beginsInside_of_letters)

/-- What begins inside a spelled keyword is a blank or one of its later words. -/
theorem Keyword.Spelled.beginsInside {k : Keyword} {kw : Text} {a : Char} (h : k.Spelled kw)
    (hk : k.IsProper) (hletters : ∀ w ∈ k, ∀ c ∈ w, Text.isWordChar c = true)
    (ha : BeginsInside a kw) : Text.isBlank a = true ∨ ∃ w ∈ k.tail, w.head? = some a := by
  induction h with
  | word w => exact absurd ha (not_beginsInside_of_letters (hletters w List.mem_cons_self))
  | @more w w' g t ws hg hspelled ih =>
    have hletters' : ∀ v ∈ w' :: ws, ∀ c ∈ v, Text.isWordChar c = true :=
      fun v hv => hletters v (List.mem_cons_of_mem w hv)
    rcases beginsInside_append ha with ha | ha | ha
    · exact absurd ha (not_beginsInside_of_letters (hletters w List.mem_cons_self))
    · rw [List.head?_append_of_ne_nil _ hg.1] at ha
      exact .inl (hg.2 a (List.mem_of_mem_head? ha))
    · rcases beginsInside_append ha with ha | ha | ha
      · exact .inl (hg.2 a ha.mem)
      · obtain ⟨c, hfirst, hc, -⟩ := hspelled.head?_eq hk.tail
        refine .inr ⟨w', List.mem_cons_self, ?_⟩
        rw [← ha, hc, ← hfirst]
        rfl
      · rcases ih hk.tail hletters' ha with hblank | ⟨v, hv, hhead⟩
        · exact .inl hblank
        · exact .inr ⟨v, List.mem_cons_of_mem w' hv, hhead⟩

theorem Keyword.IsProper.isBlank_first {k : Keyword} {a : Char} (hk : k.IsProper)
    (ha : a ∈ k.first) : Text.isBlank a = false := by
  obtain ⟨w, hw, hhead⟩ := Option.bind_eq_some_iff.1 ha
  exact (hk.2 w (List.mem_of_mem_head? hw)).2 a hhead

/-! ## Clauses at their places -/

namespace Clause

/-- Nothing inside a keyword or a numeral begins as a keyword does. -/
structure IsApart (keywords : List Keyword) : Prop where
  letters : ∀ k ∈ keywords, ∀ w ∈ k, ∀ c ∈ w, Text.isWordChar c = true
  /-- no later word of a keyword begins as a keyword does -/
  later : ∀ k ∈ keywords, ∀ w ∈ k.tail, ∀ k' ∈ keywords, w.head? ≠ k'.first
  first : ∀ k ∈ keywords, ∀ a ∈ k.first, Text.isDigit a = false ∧ a ≠ '.'

/-- Keywords that can be told apart, and from numerals that are `R`. -/
structure IsRegular (c : Clause) (R : Text → Text → Prop) : Prop where
  clear : IsClear c.keywords
  apart : IsApart c.keywords
  reads : c.numeral.Reads R
  isLocal : NumeralForm.IsLocal R

/-- What is asked of keywords, as it can be checked: their words are words, no two begin alike, no
later word begins as a keyword does, and none begins with a digit. -/
def areDistinct (keywords : List Keyword) : Bool :=
  (keywords.all fun k => k ≠ [] && k.all fun w => w ≠ [] && w.all Text.isWordChar) &&
    decide (keywords.map Keyword.first).Nodup &&
    (keywords.all fun k => k.tail.all fun w => keywords.all fun k' => w.head? ≠ k'.first) &&
    keywords.all fun k => k.first.all fun a => !Text.isDigit a

theorem isRegular_of_areDistinct {c : Clause} {R : Text → Text → Prop}
    (h : areDistinct c.keywords = true) (hreads : c.numeral.Reads R)
    (hlocal : NumeralForm.IsLocal R) : c.IsRegular R := by
  simp only [areDistinct, Bool.and_eq_true, List.all_eq_true, decide_eq_true_eq] at h
  obtain ⟨⟨⟨hwords, hnodup⟩, hlater⟩, hfirst⟩ := h
  have hletters : ∀ k ∈ c.keywords, ∀ w ∈ k, ∀ a ∈ w, Text.isWordChar a = true :=
    fun k hk w hw => ((hwords k hk).2 w hw).2
  have hproper : ∀ k ∈ c.keywords, k.IsProper := by
    refine fun k hk => ⟨(hwords k hk).1, fun w hw => ⟨((hwords k hk).2 w hw).1, fun a ha => ?_⟩⟩
    exact Text.isBlank_of_isWordChar (hletters k hk w hw a (List.mem_of_mem_head? ha))
  have hclear : IsClear c.keywords :=
    ⟨hproper, fun _ hk _ hk' heq => List.inj_on_of_nodup_map hnodup hk hk' heq⟩
  refine ⟨hclear, ⟨hletters, hlater, fun k hk a ha => ?_⟩, hreads, hlocal⟩
  obtain ⟨w, hw, hhead⟩ := Option.bind_eq_some_iff.1 ha
  have hword := hletters k hk w (List.mem_of_mem_head? hw) a (List.mem_of_mem_head? hhead)
  refine ⟨by simpa using (Option.all_eq_true _ _).1 (hfirst k hk) a ha, ?_⟩
  rintro rfl
  exact absurd hword (by decide)

/-- The leftmost occurrence `o` of a clause, with `front` before it and `rest` behind it. -/
structure FoundAt (c : Clause) (text front : Text) (o : Occurrence) (rest : Text) : Prop where
  eq : text = front ++ (o.text ++ rest)
  read : c.at? front.getLast? (o.text ++ rest) = some o
  /-- none is read further to the front -/
  least : ∀ f b, text = f ++ b → f.length < front.length → c.at? f.getLast? b = none

variable {c : Clause} {R : Text → Text → Prop} {o o' : Occurrence} {before : Option Char}
  {text front rest t f f' b b' r : Text}

theorem exists_text_append_of_at? (h : c.IsRegular R) (hat : c.at? before t = some o) :
    ∃ r, t = o.text ++ r := by
  obtain ⟨-, k, -, r, rfl, -⟩ := (at?_eq_some_iff h.clear h.reads).1 hat
  exact ⟨r, by simp only [Occurrence.text, List.append_assoc]⟩

/-- An occurrence is read in front of its own text exactly if its pieces are what they have to
be. -/
theorem at?_text_append_iff (h : c.IsRegular R) :
    c.at? before (o.text ++ r) = some o ↔ (∀ a ∈ before, Text.isWordChar a = false) ∧
      (∃ k ∈ c.keywords, k.Spelled o.keyword) ∧ Text.IsGap o.gap ∧ R o.numeral r := by
  rw [at?_eq_some_iff h.clear h.reads]
  have htext (r' : Text) :
      o.text ++ r = o.keyword ++ (o.gap ++ (o.numeral ++ r')) ↔ r = r' := by
    rw [← List.append_assoc, ← List.append_assoc]
    exact List.append_cancel_left_eq _ _ _ |>.to_iff
  constructor
  · rintro ⟨hbefore, k, hk, r', ht, hspelled, hgap, hn⟩
    obtain rfl := (htext r').1 ht
    exact ⟨hbefore, ⟨k, hk, hspelled⟩, hgap, hn⟩
  · rintro ⟨hbefore, ⟨k, hk, hspelled⟩, hgap, hn⟩
    exact ⟨hbefore, k, hk, r, (htext r).2 rfl, hspelled, hgap, hn⟩

/-- What is read begins as a keyword does. -/
theorem exists_first_of_at? (h : c.IsRegular R) (hat : c.at? before t = some o) :
    ∃ k ∈ c.keywords, ∃ a ∈ k.first, t.head? = some a := by
  obtain ⟨-, k, hk, r, rfl, hspelled, -⟩ := (at?_eq_some_iff h.clear h.reads).1 hat
  obtain ⟨a, hfirst, hhead, -⟩ := hspelled.head?_eq (h.clear.proper k hk)
  exact ⟨k, hk, a, hfirst, by rw [List.head?_append, hhead, Option.some_or]⟩

/-- Nothing inside an occurrence begins as a keyword does. -/
theorem not_beginsInside_text (h : c.IsRegular R) (hat : c.at? before t = some o) {k : Keyword}
    {a : Char} (hk : k ∈ c.keywords) (ha : a ∈ k.first) : ¬ BeginsInside a o.text := by
  obtain ⟨-, k', hk', r, -, hspelled, hgap, hn⟩ := (at?_eq_some_iff h.clear h.reads).1 hat
  have hblank : Text.isBlank a ≠ true := by
    rw [(h.clear.proper k hk).isBlank_first ha]
    exact Bool.false_ne_true
  have hnumeral : a ∉ o.numeral := by
    intro hmem
    obtain ⟨hdigit, hpoint⟩ := h.apart.first k hk a ha
    rcases h.isLocal.chars _ r hn a hmem with hd | rfl
    · exact Bool.false_ne_true (hdigit.symm.trans hd)
    · exact hpoint rfl
  intro hinside
  rcases beginsInside_append hinside with hinside | hhead | hinside
  · rcases beginsInside_append hinside with hinside | hhead | hinside
    · rcases hspelled.beginsInside (h.clear.proper k' hk') (h.apart.letters k' hk') hinside with
        ha' | ⟨w, hw, hhead⟩
      · exact hblank ha'
      · exact h.apart.later k' hk' w hw k hk (hhead.trans (Option.mem_def.1 ha).symm)
    · exact hblank (hgap.2 a (List.mem_of_mem_head? hhead))
    · exact hblank (hgap.2 a hinside.mem)
  · exact hnumeral (List.mem_of_mem_head? hhead)
  · exact hnumeral hinside.mem

/-- Of two occurrences in a text the one further to the front ends before the other begins. -/
theorem length_le_of_at? (h : c.IsRegular R) (hat : c.at? f.getLast? b = some o)
    (hat' : c.at? f'.getLast? b' = some o') (hsplit : f ++ b = f' ++ b')
    (hlt : f.length < f'.length) : f.length + o.text.length ≤ f'.length := by
  obtain ⟨x, rfl, rfl⟩ := Text.exists_append_of_length_le hsplit (Nat.le_of_lt hlt)
  rw [List.length_append] at hlt ⊢
  have hne : x ≠ [] := List.ne_nil_of_length_pos (by omega)
  by_contra hgt
  -- otherwise the second one begins inside the first
  obtain ⟨r, hr⟩ := exists_text_append_of_at? h hat
  obtain ⟨y, htext, hy⟩ := Text.exists_append_of_length_le hr (by omega)
  obtain ⟨hbefore, -⟩ := (at?_eq_some_iff h.clear h.reads).1 hat'
  obtain ⟨k, hk, a, ha, hhead⟩ := exists_first_of_at? h hat'
  rw [List.getLast?_append_of_ne_nil f hne] at hbefore
  cases y with
  | nil =>
    rw [htext, List.append_nil] at hgt
    omega
  | cons a' y =>
    rw [hy, List.cons_append, List.head?_cons, Option.some.injEq] at hhead
    subst hhead
    exact not_beginsInside_text h hat hk ha ⟨x, y, htext, hne, hbefore⟩

/-! ## Words behind a text -/

theorem at?_append_blank (h : c.IsRegular R) (hat : c.at? before t = some o) (u : Text) :
    c.at? before (t ++ ' ' :: u) = some o := by
  obtain ⟨r, rfl⟩ := exists_text_append_of_at? h hat
  rw [List.append_assoc]
  rw [at?_text_append_iff h] at hat ⊢
  rwa [h.isLocal.blank]

theorem at?_of_append_blank {u : Text} (h : c.IsRegular R)
    (hat : c.at? before (t ++ ' ' :: u) = some o) (hlength : o.text.length ≤ t.length) :
    c.at? before t = some o := by
  obtain ⟨r, hr⟩ := exists_text_append_of_at? h hat
  obtain ⟨s, rfl, -⟩ := Text.exists_append_of_length_le hr.symm hlength
  rw [List.append_assoc] at hat
  rw [at?_text_append_iff h] at hat ⊢
  rwa [h.isLocal.blank] at hat

/-- Words behind a text leave the leftmost occurrence where it is. -/
theorem FoundAt.append_blank (h : c.IsRegular R) (hfound : c.FoundAt text front o rest)
    (u : Text) : c.FoundAt (text ++ ' ' :: u) front o (rest ++ ' ' :: u) where
  eq := by rw [hfound.eq, List.append_assoc, List.append_assoc]
  read := by
    rw [← List.append_assoc]
    exact at?_append_blank h hfound.read u
  least f b hsplit hlt := by
    rw [Option.eq_none_iff_forall_ne_some]
    intro o' ho'
    have hread : c.at? front.getLast? (o.text ++ rest ++ ' ' :: u) = some o :=
      at?_append_blank h hfound.read u
    have hends := length_le_of_at? h ho' hread
      (by rw [← hsplit, hfound.eq, List.append_assoc]) hlt
    -- so it lies in the text itself, and was found there
    have hlength := congrArg List.length hfound.eq
    rw [List.length_append, List.length_append] at hlength
    obtain ⟨b', rfl, rfl⟩ := Text.exists_append_of_length_le hsplit.symm (by omega)
    rw [List.length_append] at hlength
    have hread' := at?_of_append_blank h ho' (by omega)
    rw [hfound.least f b' rfl hlt] at hread'
    cases hread'

/-- The leftmost occurrence is the one that is found at some place. -/
theorem first?_eq_some_iff (h : c.IsRegular R) :
    c.first? text = some o ↔ ∃ front rest, c.FoundAt text front o rest := by
  unfold first?
  rw [firstAfter?_eq_some_iff h.clear h.reads]
  constructor
  · rintro ⟨front, back, htext, hat, hleast⟩
    rw [Option.or_none] at hat
    obtain ⟨rest, rfl⟩ := exists_text_append_of_at? h hat
    refine ⟨front, rest, htext, hat, fun f b hsplit hlt => ?_⟩
    have hnone := hleast f b hsplit hlt
    rwa [Option.or_none] at hnone
  · rintro ⟨front, rest, hfound⟩
    refine ⟨front, o.text ++ rest, hfound.eq, by rw [Option.or_none]; exact hfound.read, ?_⟩
    intro f b hsplit hlt
    rw [Option.or_none]
    exact hfound.least f b hsplit hlt

/-- Where a clause is found, said without reading: it stands there, and at no place further to the
front. -/
theorem foundAt_iff (h : c.IsRegular R) :
    c.FoundAt text front o rest ↔ text = front ++ (o.text ++ rest) ∧
      (∀ a ∈ front.getLast?, Text.isWordChar a = false) ∧
      (∃ k ∈ c.keywords, k.Spelled o.keyword) ∧ Text.IsGap o.gap ∧ R o.numeral rest ∧
      ∀ q m, Occurs c.keywords R text q m → front.length ≤ q := by
  constructor
  · rintro ⟨htext, hat, hleast⟩
    obtain ⟨hbefore, hspelled, hgap, hn⟩ := (at?_text_append_iff h).1 hat
    refine ⟨htext, hbefore, hspelled, hgap, hn, fun q m hq => ?_⟩
    obtain ⟨f, b, o', hsplit, rfl, hat', -⟩ := (occurs_iff_at? h.clear h.reads).1 hq
    by_contra hlt
    rw [hleast f b hsplit (Nat.lt_of_not_le hlt)] at hat'
    cases hat'
  · rintro ⟨htext, hbefore, hspelled, hgap, hn, hleast⟩
    refine ⟨htext, (at?_text_append_iff h).2 ⟨hbefore, hspelled, hgap, hn⟩, ?_⟩
    intro f b hsplit hlt
    rw [Option.eq_none_iff_forall_ne_some]
    intro o' ho'
    have hle := hleast f.length o'.numeral
      ((occurs_iff_at? h.clear h.reads).2 ⟨f, b, o', hsplit, rfl, ho', rfl⟩)
    exact absurd hle (Nat.not_le_of_lt hlt)

/-- A clause that was found is found, just the same, when the text goes on. -/
theorem first?_append_blank (h : c.IsRegular R) (hfirst : c.first? text = some o) (u : Text) :
    c.first? (text ++ ' ' :: u) = some o := by
  obtain ⟨front, rest, hfound⟩ := (first?_eq_some_iff h).1 hfirst
  exact (first?_eq_some_iff h).2 ⟨front, _, hfound.append_blank h u⟩

end Clause

/-! ## The clauses of requests -/

namespace FilterRule

open NumeralForm

theorem isRegular_onDate {keyword operator : Text}
    (h : keyword ∈ ["after".toList, "before".toList]) :
    (onDate keyword operator).clause.IsRegular fun n _ => Text.IsYear n := by
  have hdistinct : Clause.areDistinct [[keyword]] = true := by
    rcases List.mem_cons.1 h with rfl | h
    · decide
    · obtain rfl := List.mem_singleton.1 h
      decide
  exact Clause.isRegular_of_areDistinct hdistinct reads_year isLocal_year

theorem isRegular_onNumber {keywords : List Keyword} {operator : Text}
    (h : Clause.areDistinct keywords = true) :
    (onNumber keywords operator).clause.IsRegular IsLongestAmount :=
  Clause.isRegular_of_areDistinct h reads_amount isLocal_amount

theorem isRegular_onKey :
    onKey.clause.IsRegular fun n r =>
      Text.IsDigits n ∧ ∀ c ∈ r.head?, Text.isWordChar c = false :=
  Clause.isRegular_of_areDistinct (by decide) reads_whole isLocal_whole

/-- The clauses of all conditions are regular. -/
theorem exists_isRegular : ∀ r ∈ all, ∃ R, r.clause.IsRegular R := by
  simp only [all, List.forall_mem_cons, List.not_mem_nil, false_imp_iff, implies_true, and_true]
  exact ⟨⟨_, isRegular_onDate (by simp)⟩, ⟨_, isRegular_onDate (by simp)⟩,
    ⟨_, isRegular_onNumber (by decide)⟩, ⟨_, isRegular_onNumber (by decide)⟩, ⟨_, isRegular_onKey⟩⟩

/-- A condition that a rule finds, it finds as well when the text goes on. -/
theorem found?_append_blank {r : FilterRule} (hr : r ∈ all) {table : Table} {text f : Text}
    (h : r.found? table text = some f) (u : Text) :
    r.found? table (text ++ ' ' :: u) = some f := by
  obtain ⟨R, hregular⟩ := exists_isRegular r hr
  obtain ⟨o, ho, hf⟩ := Option.bind_eq_some_iff.1 h
  exact Option.bind_eq_some_iff.2 ⟨o, Clause.first?_append_blank hregular ho u, hf⟩

end FilterRule

namespace Request

theorem isRegular_limitClause :
    limitClause.IsRegular fun n r =>
      Text.IsDigits n ∧ ∀ c ∈ r.head?, Text.isWordChar c = false :=
  Clause.isRegular_of_areDistinct (by decide) NumeralForm.reads_whole NumeralForm.isLocal_whole

/-- A limit that a text has, or fails to give, is the same when the text goes on. -/
theorem limit?_append_blank {text : Text} (h : limit? text ≠ .ok none) (u : Text) :
    limit? (text ++ ' ' :: u) = limit? text := by
  unfold limit? at h ⊢
  cases ho : limitClause.first? text with
  | none =>
    rw [ho] at h
    exact absurd rfl h
  | some o => rw [Clause.first?_append_blank isRegular_limitClause ho u]

/-- More is found if all that was found is. -/
theorem filterMap_sublist {α β : Type} {f g : α → Option β} {xs : List α}
    (h : ∀ x ∈ xs, ∀ y, f x = some y → g x = some y) :
    (xs.filterMap f).Sublist (xs.filterMap g) := by
  induction xs with
  | nil => exact List.Sublist.slnil
  | cons x xs ih =>
    have hrest := ih fun x' hx' => h x' (List.mem_cons_of_mem x hx')
    rw [List.filterMap_cons, List.filterMap_cons]
    cases hf : f x with
    | some y =>
      rw [h x List.mem_cons_self y hf]
      exact hrest.cons_cons y
    | none =>
      cases g x with
      | none => exact hrest
      | some y => exact hrest.cons y

/-- Words behind a text add conditions or a limit, and leave those that are there: the conditions
of the text are among those of the longer one, in their order, and a limit stays what it is. -/
theorem clauses_outlast_words (table : Table) (text more : Text) :
    (filters table text).Sublist (filters table (text ++ ' ' :: more)) ∧
      (∀ n, limit? text = .ok (some n) → limit? (text ++ ' ' :: more) = .ok (some n)) ∧
      ∀ e, limit? text = .error e → limit? (text ++ ' ' :: more) = .error e := by
  refine ⟨?_, fun n hn => ?_, fun e he => ?_⟩
  · rw [filters_eq_filterMap, filters_eq_filterMap]
    exact filterMap_sublist fun r hr f hf => FilterRule.found?_append_blank hr hf more
  · rw [limit?_append_blank (by rw [hn]; simp), hn]
  · rw [limit?_append_blank (by rw [he]; simp), he]

/-- Words that end one clause, and bring another of each kind. -/
theorem clauses_outlast_words_of_first_five :
    limit? "under 20 first 5".toList = .ok (some 5) ∧
    limit? "under 20 first 5 top 2 over 3.5 under 7".toList = .ok (some 5) ∧
    filters ⟨"t".toList, [⟨"n".toList, .integer⟩]⟩ "under 20 first 5".toList
      = ["n < 20".toList] ∧
    (["n < 20".toList] : List Text).Sublist
      (filters ⟨"t".toList, [⟨"n".toList, .integer⟩]⟩
        "under 20 first 5 top 2 over 3.5 under 7".toList) := by
  have hlimit : limit? "under 20 first 5".toList = .ok (some 5) := by rfl
  have hfilters : filters ⟨"t".toList, [⟨"n".toList, .integer⟩]⟩ "under 20 first 5".toList
      = ["n < 20".toList] := by decide +kernel
  obtain ⟨hsub, hstays, -⟩ := clauses_outlast_words ⟨"t".toList, [⟨"n".toList, .integer⟩]⟩
    "under 20 first 5".toList "top 2 over 3.5 under 7".toList
  refine ⟨hlimit, hstays 5 hlimit, hfilters, ?_⟩
  rw [← hfilters]
  exact hsub

end Request
end PlainSearch
