/-
  Proofs/Sql/Enclosed.lean --- text between marks, written and read.

  WHAT THIS FILE IS FOR.  A statement encloses a text between two marks and writes
  each mark inside the text twice.  `readEnclosed` reads what stands behind the opening
  mark: two marks in a row stand for one, and a mark by itself is the end.

      it reads exactly what was written so, and nothing else
      (`readEnclosed_eq_some_iff`).

  The mark is a single quote for texts and a double quote for names.
-/
import PlainSearch.Text.Basic

set_option autoImplicit false

namespace PlainSearch

namespace Text

theorem substitute_cons_self (a : Char) (w t : Text) :
    substitute a w (a :: t) = w ++ substitute a w t := by
  unfold substitute
  rw [List.flatMap_cons, if_pos rfl]

theorem substitute_cons_of_ne {a c : Char} (w t : Text) (h : c ≠ a) :
    substitute a w (c :: t) = c :: substitute a w t := by
  unfold substitute
  rw [List.flatMap_cons, if_neg h, List.singleton_append]

theorem length_le_length_substitute (a : Char) {w : Text} (hw : w ≠ []) (t : Text) :
    t.length ≤ (substitute a w t).length := by
  induction t with
  | nil => exact Nat.le_refl 0
  | cons c t ih =>
    by_cases h : c = a
    · subst h
      have hpos : 0 < w.length := List.length_pos_iff.2 hw
      rw [substitute_cons_self, List.length_append, List.length_cons]
      omega
    · rw [substitute_cons_of_ne w t h, List.length_cons, List.length_cons]
      omega

end Text

namespace Sql

/-- The text up to the closing mark, and what follows the mark. -/
def readEnclosed (mark : Char) : Text → Option (Text × Text)
  | [] => none
  | [c] => if c = mark then some ([], []) else none
  | c :: d :: t =>
    if c ≠ mark then (readEnclosed mark (d :: t)).map fun p => (c :: p.1, p.2)
    else if d = mark then (readEnclosed mark t).map fun p => (mark :: p.1, p.2)
    else some ([], d :: t)

variable {mark : Char}

theorem readEnclosed_cons_of_ne {c : Char} (t : Text) (h : c ≠ mark) :
    readEnclosed mark (c :: t) = (readEnclosed mark t).map fun p => (c :: p.1, p.2) := by
  cases t with
  | nil => simp [readEnclosed, h]
  | cons d t => rw [readEnclosed, if_pos h]

theorem readEnclosed_mark_of_head? {r : Text} (h : r.head? ≠ some mark) :
    readEnclosed mark (mark :: r) = some ([], r) := by
  cases r with
  | nil => simp [readEnclosed]
  | cons d t =>
    have hd : d ≠ mark := fun heq => h (congrArg some heq)
    simp [readEnclosed, hd]

theorem readEnclosed_mark_mark (t : Text) :
    readEnclosed mark (mark :: mark :: t) =
      (readEnclosed mark t).map fun p => (mark :: p.1, p.2) := by
  simp [readEnclosed]

/-- What was written with its marks doubled reads back, and no further than to the mark behind
it. -/
theorem readEnclosed_append (t : Text) {r : Text} (h : r.head? ≠ some mark) :
    readEnclosed mark (Text.substitute mark [mark, mark] t ++ mark :: r) = some (t, r) := by
  induction t with
  | nil => exact readEnclosed_mark_of_head? h
  | cons c t ih =>
    by_cases hc : c = mark
    · subst hc
      rw [Text.substitute_cons_self]
      show readEnclosed c (c :: c :: (Text.substitute c [c, c] t ++ c :: r)) = some (c :: t, r)
      rw [readEnclosed_mark_mark, ih]
      rfl
    · rw [Text.substitute_cons_of_ne _ t hc, List.cons_append, readEnclosed_cons_of_ne _ hc, ih]
      rfl

/-- A text is read only if it was written with its marks doubled and a mark behind it. -/
theorem readEnclosed_eq_some_iff {s t r : Text} :
    readEnclosed mark s = some (t, r) ↔
      s = Text.substitute mark [mark, mark] t ++ mark :: r ∧ r.head? ≠ some mark := by
  constructor
  · intro h
    induction s using readEnclosed.induct mark generalizing t with
    | case1 => cases h
    | case2 =>
      rw [readEnclosed_mark_of_head? (by simp)] at h
      cases h
      exact ⟨rfl, by simp⟩
    | case3 c hc =>
      rw [readEnclosed_cons_of_ne [] hc] at h
      cases h
    | case4 c d s hc ih =>
      rw [readEnclosed_cons_of_ne _ hc, Option.map_eq_some_iff] at h
      obtain ⟨⟨t', r'⟩, hread, heq⟩ := h
      cases heq
      obtain ⟨hs, hr⟩ := ih hread
      rw [Text.substitute_cons_of_ne _ t' hc, List.cons_append, ← hs]
      exact ⟨rfl, hr⟩
    | case5 c s hc ih =>
      have hmark : c = mark := Decidable.not_not.1 hc
      subst hmark
      rw [readEnclosed_mark_mark, Option.map_eq_some_iff] at h
      obtain ⟨⟨t', r'⟩, hread, heq⟩ := h
      cases heq
      obtain ⟨hs, hr⟩ := ih hread
      rw [Text.substitute_cons_self, hs]
      exact ⟨rfl, hr⟩
    | case6 c d s hc hd =>
      have hmark : c = mark := Decidable.not_not.1 hc
      subst hmark
      have hhead : (d :: s).head? ≠ some c := fun heq => hd (Option.some.inj heq)
      rw [readEnclosed_mark_of_head? hhead] at h
      cases h
      exact ⟨rfl, hhead⟩
  · rintro ⟨rfl, hr⟩
    exact readEnclosed_append t hr

end Sql
end PlainSearch
