/-
  Request/Operator.lean --- the operators of a search expression.

  WHAT THIS FILE IS FOR.  In a request, operators are ordinary words: and, or, not
  between terms, and near with a distance between two operands.  In a search
  expression the first three are capitals, and the fourth takes its distance
  behind a slash:

      cats and dogs          cats AND dogs
      cats near 3 dogs       cats NEAR/3 dogs

  An operator is recognized as a whole word only.  An operand is a word; the right
  operand of one proximity operator is not at the same time the left operand of
  the next.
-/
import PlainSearch.Request.Token
import PlainSearch.Text.LowerCase

set_option autoImplicit false

namespace PlainSearch.Token

/-! ## and, or, not -/

/-- The words that join terms, and how an expression spells them. -/
def connectives : List (Text × Text) :=
  [("and".toList, "AND".toList), ("or".toList, "OR".toList), ("not".toList, "NOT".toList)]

/-- A connective as the expression spells it; any other token as it is. -/
def capitalize : Token → Token
  | .word ss =>
    match connectives.find? fun p => ss = Symbol.ofPlain p.1 with
    | some p => .word (Symbol.ofPlain p.2)
    | none => .word ss
  | t => t

/-! ## near -/

/-- The word near, in any letter case. -/
def isNear (ss : List Symbol) : Bool :=
  Text.eqIgnoringAsciiCase (Symbol.textOf ss) "near".toList

/-- A symbol that is a decimal digit. -/
def isDigitSymbol : Symbol → Bool
  | .char c => Text.isDigit c
  | .phrase _ => false

/-- The tokens of a proximity operator between the words `a` and `b`, at a distance `n`. -/
def proximity (a n b : List Symbol) : List Token :=
  [.word a, .gap [' '], .word (Symbol.ofPlain "NEAR".toList), .mark '/', .word n, .gap [' '],
    .word b]

/-- The proximity operator that begins at the first of the tokens, with both its operands. -/
def proximityAt? : List Token → Option (List Token)
  | .word a :: .gap _ :: .word w :: .gap _ :: .word n :: .gap _ :: .word b :: _ =>
    if isNear w && n.all isDigitSymbol then some (proximity a n b) else none
  | _ => none

/-- Writes the proximity operators among the tokens, the first `skip` of which are done with. -/
def writeProximity : Nat → List Token → List Token
  | _, [] => []
  | skip + 1, _ :: ts => writeProximity skip ts
  | 0, t :: ts =>
    match proximityAt? (t :: ts) with
    | some op => op ++ writeProximity 6 ts
    | none => t :: writeProximity 0 ts

/-- The search terms with their operators written as an expression has them. -/
def writeOperators (ts : List Token) : List Token := writeProximity 0 (ts.map capitalize)

/-- Tokens that are done with have no effect. -/
theorem writeProximity_eq_drop (skip : Nat) (ts : List Token) :
    writeProximity skip ts = writeProximity 0 (ts.drop skip) := by
  induction ts generalizing skip with
  | nil => cases skip <;> simp [writeProximity]
  | cons t ts ih =>
    cases skip with
    | zero => simp
    | succ k => simp only [writeProximity, List.drop_succ_cons]; exact ih k

end PlainSearch.Token
