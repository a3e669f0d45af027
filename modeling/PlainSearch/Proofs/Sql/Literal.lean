/-
  Proofs/Sql/Literal.lean --- string literals, written and read.

  WHAT THIS FILE IS FOR.  A statement holds text as a string literal.  The engine
  reads one character by character: two single quotes in a row stand for one, and a
  single quote by itself is the end.  `readLiteral` is that reader.

      it reads a written body back and stops at the quote behind it, whatever the
      text is (`readLiteral_literalBody_append`);

      it reads nothing else (`readLiteral_eq_some_iff`).

  It is the reader of text between marks, with a single quote for the mark
  (`readLiteral_eq_readEnclosed`), and has its properties from there.  So no text can
  end its own literal, and what stands behind the literal is the statement's and not
  the text's.
-/
import PlainSearch.Proofs.Sql.Enclosed
import PlainSearch.Request.Statement

set_option autoImplicit false

namespace PlainSearch.Sql

/-- The text of a string literal that has been opened, and what follows its closing quote. -/
def readLiteral : Text → Option (Text × Text)
  | [] => none
  | '\'' :: '\'' :: t => (readLiteral t).map fun p => ('\'' :: p.1, p.2)
  | '\'' :: t => some ([], t)
  | c :: t => (readLiteral t).map fun p => (c :: p.1, p.2)

theorem readLiteral_eq_readEnclosed (t : Text) : readLiteral t = readEnclosed '\'' t := by
  induction t using readLiteral.induct with
  | case1 => rfl
  | case2 t ih => rw [readLiteral, readEnclosed_mark_mark, ih]
  | case3 t ht =>
    have hhead : t.head? ≠ some '\'' := by
      cases t with
      | nil => simp
      | cons c t => exact fun heq => ht t (congrArg (· :: t) (Option.some.inj heq))
    rw [readEnclosed_mark_of_head? hhead]
    cases t with
    | nil => rfl
    | cons c t => simp [readLiteral]
  | case4 c t _ hc ih =>
    have hne : c ≠ '\'' := fun heq => hc heq
    rw [readEnclosed_cons_of_ne t hne, ← ih]
    simp [readLiteral]

/-- The body of a literal reads back as its text, and no further than to the quote behind it. -/
theorem readLiteral_literalBody_append (t : Text) {r : Text} (h : r.head? ≠ some '\'') :
    readLiteral (literalBody t ++ '\'' :: r) = some (t, r) := by
  rw [readLiteral_eq_readEnclosed]
  exact readEnclosed_append t h

/-- A text is read as a literal only if it is the body of one, a quote, and something else. -/
theorem readLiteral_eq_some_iff {s t r : Text} :
    readLiteral s = some (t, r) ↔ s = literalBody t ++ '\'' :: r ∧ r.head? ≠ some '\'' := by
  rw [readLiteral_eq_readEnclosed]
  exact readEnclosed_eq_some_iff

end PlainSearch.Sql
