/-
  Proofs/Text/Trim.lean --- what trimming takes away, and what it leaves.

  WHAT THIS FILE IS FOR.  A text is trimmed if neither its first nor its last character
  is of the class.  Trimming ends in such a text (`isTrimmed_trimBy`) and leaves one as it
  is (`trimBy_eq_self`).  Characters of the class around a text make no difference
  (`trimBy_append_append`), and a trimmed text that stands somewhere in another still
  stands there when that is trimmed (`IsTrimmed.isInfix_trimBy`).
-/
import Mathlib.Data.List.DropRight
import Mathlib.Data.List.TakeWhile
import PlainSearch.Text.Blank

set_option autoImplicit false

namespace PlainSearch.Text

/-! ## Dropping from either end of a list -/

section Drop

variable {α : Type} {p : α → Bool} {xs : List α}

theorem dropWhile_eq_self_of_head? (h : ∀ x ∈ xs.head?, p x = false) : xs.dropWhile p = xs := by
  cases xs with
  | nil => rfl
  | cons x xs => rw [List.dropWhile_cons_of_neg (by simpa using h x rfl)]

theorem head?_dropWhile_eq_false {x : α} (h : x ∈ (xs.dropWhile p).head?) : p x = false := by
  have hnot := List.head?_dropWhile_not p xs
  rw [Option.mem_def.1 h] at hnot
  simpa using hnot

theorem dropWhile_append_of_forall {g : List α} (hg : ∀ x ∈ g, p x = true) (xs : List α) :
    (g ++ xs).dropWhile p = xs.dropWhile p := by
  rw [List.dropWhile_append, List.dropWhile_eq_nil_iff.2 hg]
  rfl

theorem rdropWhile_append_of_forall {g : List α} (hg : ∀ x ∈ g, p x = true) (xs : List α) :
    (xs ++ g).rdropWhile p = xs.rdropWhile p := by
  have hreverse : ∀ x ∈ g.reverse, p x = true := fun x hx => hg x (List.mem_reverse.1 hx)
  rw [List.rdropWhile, List.reverse_append, dropWhile_append_of_forall hreverse]
  rfl

/-- What stands between two runs of a class, and has none of it at its own ends, is left when both
are dropped. -/
theorem rdropWhile_dropWhile_append_append {g g' : List α} (hg : ∀ x ∈ g, p x = true)
    (hg' : ∀ x ∈ g', p x = true) (hhead : ∀ x ∈ xs.head?, p x = false)
    (hlast : ∀ x ∈ xs.getLast?, p x = false) :
    ((g ++ xs ++ g').dropWhile p).rdropWhile p = xs := by
  rw [List.append_assoc, dropWhile_append_of_forall hg]
  by_cases hne : xs = []
  · subst hne
    rw [List.nil_append, List.dropWhile_eq_nil_iff.2 hg', List.rdropWhile_nil]
  · have hfront : ∀ x ∈ (xs ++ g').head?, p x = false := by
      rwa [List.head?_append_of_ne_nil _ hne]
    have hback : ∀ x ∈ xs.reverse.head?, p x = false := by rwa [List.head?_reverse]
    rw [dropWhile_eq_self_of_head? hfront, rdropWhile_append_of_forall hg', List.rdropWhile,
      dropWhile_eq_self_of_head? hback, List.reverse_reverse]

end Drop

variable {p : Char → Bool} {t : Text}

/-- Neither the first nor the last character of a text is of the class. -/
structure IsTrimmed (p : Char → Bool) (t : Text) : Prop where
  head : ∀ c ∈ t.head?, p c = false
  last : ∀ c ∈ t.getLast?, p c = false

theorem trimBy_eq (p : Char → Bool) (t : Text) : trimBy p t = (t.dropWhile p).rdropWhile p := rfl

theorem trimBy_eq_self (h : IsTrimmed p t) : trimBy p t = t := by
  have hlast : ∀ c ∈ t.reverse.head?, p c = false := by
    rw [List.head?_reverse]
    exact h.last
  rw [trimBy, dropWhile_eq_self_of_head? h.head, dropWhile_eq_self_of_head? hlast,
    List.reverse_reverse]

theorem isTrimmed_trimBy (p : Char → Bool) (t : Text) : IsTrimmed p (trimBy p t) := by
  constructor
  · -- what is left when the end is cut off begins as before, unless it is empty
    intro c hc
    obtain ⟨cut, hcut⟩ := List.rdropWhile_prefix p (l := t.dropWhile p)
    have hmem : c ∈ (t.dropWhile p).head? → p c = false := head?_dropWhile_eq_false
    apply hmem
    rw [← hcut, ← trimBy_eq, List.head?_append, Option.mem_def.1 hc]
    rfl
  · intro c hc
    rw [trimBy, List.getLast?_reverse] at hc
    exact head?_dropWhile_eq_false hc

/-! ## What stands around a text -/

/-- Characters of the class in front of a text and behind it make no difference. -/
theorem trimBy_append_append {g g' : Text} (hg : ∀ c ∈ g, p c = true) (hg' : ∀ c ∈ g', p c = true)
    (t : Text) : trimBy p (g ++ t ++ g') = trimBy p t := by
  rw [List.append_assoc, trimBy_eq, trimBy_eq, dropWhile_append_of_forall hg, List.dropWhile_append]
  split
  · next hnone =>
    rw [List.isEmpty_iff.1 hnone, List.dropWhile_eq_nil_iff.2 hg']
  · exact rdropWhile_append_of_forall hg' _

/-- A mapping that keeps the class keeps what trimming leaves. -/
theorem trimBy_map {f : Char → Char} (hf : ∀ c, p (f c) = p c) (t : Text) :
    trimBy p (t.map f) = (trimBy p t).map f := by
  have hcomp : p ∘ f = p := funext hf
  simp only [trimBy, List.dropWhile_map, hcomp, ← List.map_reverse]

/-! ## What stands inside a text -/

theorem dropWhile_append_of_head? {u : Text} (hu : ∀ c ∈ u.head?, p c = false) (t : Text) :
    (t ++ u).dropWhile p = t.dropWhile p ++ u := by
  rw [List.dropWhile_append]
  split
  · next hnone => rw [List.isEmpty_iff.1 hnone, dropWhile_eq_self_of_head? hu, List.nil_append]
  · rfl

theorem rdropWhile_append_of_getLast? {u : Text} (hu : ∀ c ∈ u.getLast?, p c = false) (t : Text) :
    (u ++ t).rdropWhile p = u ++ t.rdropWhile p := by
  rw [List.rdropWhile, List.reverse_append, dropWhile_append_of_head? (by rwa [List.head?_reverse]),
    List.reverse_append, List.reverse_reverse]
  rfl

/-- A trimmed text that stands in another stands in what trimming leaves of it. -/
theorem IsTrimmed.isInfix_trimBy {w : Text} (hw : IsTrimmed p w) (h : w <:+: t) :
    w <:+: trimBy p t := by
  by_cases hne : w = []
  · rw [hne]
    exact List.nil_infix
  · obtain ⟨front, back, rfl⟩ := h
    have hhead : ∀ c ∈ (w ++ back).head?, p c = false := by
      rw [List.head?_append_of_ne_nil _ hne]
      exact hw.head
    have hlast : ∀ c ∈ (front.dropWhile p ++ w).getLast?, p c = false := by
      rw [List.getLast?_append_of_ne_nil _ hne]
      exact hw.last
    rw [trimBy_eq, List.append_assoc, dropWhile_append_of_head? hhead, ← List.append_assoc,
      rdropWhile_append_of_getLast? hlast]
    exact ⟨front.dropWhile p, back.rdropWhile p, rfl⟩

end PlainSearch.Text
