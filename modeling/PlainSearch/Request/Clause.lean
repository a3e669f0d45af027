/-
  Request/Clause.lean --- a keyword followed by a numeral.

  WHAT THIS FILE IS FOR.  Filters and limits are phrased alike: a keyword, blanks,
  a numeral, as in after 1950, less than 20, top 3.  A `Clause` says which keywords
  count and what its numeral looks like; `Clause.first?` finds its leftmost
  occurrence in a text.

  WHERE A CLAUSE OCCURS.  At a place in the text
    * no word character stands before it,
    * one of the keywords stands at it, the words of a longer keyword with blanks
      between them,
    * one or more blanks follow, and then a numeral of the clause.
  A place that fails one of these does not hide a later one.

  NUMBERS.  Top 3 and first 3 ask for three rows.  The numeral has to end a word, so the
  first of first 12th is passed over.  A run of digits, of any script, is read as a
  number if it has at most `numeralLimit` digits, leading zeros included, and refused
  if it has more.
-/
import PlainSearch.Fault
import PlainSearch.Text.Blank
import PlainSearch.Text.Word

set_option autoImplicit false

namespace PlainSearch

/-! ## Numerals -/

/-- What a numeral looks like: the numeral at the front of a text. -/
abbrev NumeralForm : Type := Text → Option Text

namespace NumeralForm

/-- The digits at the front of a text, as many as there are; at least one is required. -/
def digits (t : Text) : Option Text :=
  match t.takeWhile Text.isDigit with
  | [] => none
  | ds => some ds

/-- Four digits; what follows them is of no concern. -/
def year : NumeralForm := fun t =>
  let ds := t.take 4
  if ds.length = 4 ∧ ds.all Text.isDigit then some ds else none

/-- Digits, and a fraction if a point with digits behind it follows. -/
def amount : NumeralForm := fun t =>
  (digits t).map fun whole =>
    match t.dropWhile Text.isDigit with
    | '.' :: r =>
      match digits r with
      | some part => whole ++ ['.'] ++ part
      | none => whole
    | _ => whole

/-- Digits that end a word. -/
def whole : NumeralForm := fun t =>
  if Text.atWordEnd (t.dropWhile Text.isDigit) then digits t else none

end NumeralForm

/-- The number that a run of digits stands for. -/
def readNumeral (ds : Text) : Except Fault Nat :=
  if numeralLimit < ds.length then .error (.longNumeral ds.length)
  else .ok (Text.numeralValue ds)

theorem readNumeral_eq_ok_iff {ds : Text} {n : Nat} :
    readNumeral ds = .ok n ↔ ds.length ≤ numeralLimit ∧ n = Text.numeralValue ds := by
  unfold readNumeral
  split
  · next h => simp; omega
  · next h => simp [eq_comm]; omega

/-! ## Clauses -/

/-- A keyword, word by word. -/
abbrev Keyword : Type := List Text

/-- The keyword at the front of a text, as it stands there, and what follows it. -/
def Keyword.read? : Keyword → Text → Option (Text × Text)
  | [], t => some ([], t)
  | [w], t => (Text.stripPrefix? w t).map (w, ·)
  | w :: w' :: ws, t =>
    match Text.stripPrefix? w t with
    | none => none
    | some r =>
      match Text.gap? r with
      | none => none
      | some (g, r) => (Keyword.read? (w' :: ws) r).map fun p => (w ++ g ++ p.1, p.2)

/-- A kind of clause. -/
structure Clause where
  keywords : List Keyword
  numeral : NumeralForm

/-- A clause as it stands in a text. -/
structure Occurrence where
  /-- the keyword, as it stands there -/
  keyword : Text
  gap : Text
  numeral : Text
  deriving DecidableEq, Repr

/-- The whole text of an occurrence. -/
def Occurrence.text (o : Occurrence) : Text := o.keyword ++ o.gap ++ o.numeral

namespace Clause

/-- The occurrence of a clause with a given keyword at the front of a text. -/
def readWith? (c : Clause) (k : Keyword) (t : Text) : Option Occurrence :=
  match k.read? t with
  | none => none
  | some (kw, r) =>
    match Text.gap? r with
    | none => none
    | some (g, r) => (c.numeral r).map fun n => ⟨kw, g, n⟩

/-- The occurrence of a clause at the front of a text that follows the character `before`. -/
def at? (c : Clause) (before : Option Char) (t : Text) : Option Occurrence :=
  if Text.atWordStart before then c.keywords.findSome? fun k => c.readWith? k t else none

/-- The leftmost occurrence of a clause in a text that follows the character `before`. -/
def firstAfter? (c : Clause) : Option Char → Text → Option Occurrence
  | _, [] => none
  | before, a :: t =>
    match c.at? before (a :: t) with
    | some o => some o
    | none => c.firstAfter? (some a) t

/-- The leftmost occurrence of a clause in a text. -/
def first? (c : Clause) (t : Text) : Option Occurrence := c.firstAfter? none t

end Clause

/-! ## How many rows are asked for -/

namespace Request

/-- The clause that limits the number of rows. -/
def limitClause : Clause := ⟨[["top".toList], ["first".toList]], NumeralForm.whole⟩

/-- The number of rows that a text asks for. -/
def limit? (text : Text) : Except Fault (Option Nat) :=
  match limitClause.first? text with
  | none => .ok none
  | some o =>
    match readNumeral o.numeral with
    | .ok n => .ok (some n)
    | .error e => .error e

end Request
end PlainSearch
