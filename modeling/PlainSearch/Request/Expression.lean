/-
  Request/Expression.lean --- from a request to its search expression.

  WHAT THIS FILE IS FOR.  Certain words introduce search terms: books about whales
  asks for whales.  Of the markers that stand in a request, the one of highest
  priority counts, wherever it stands, and the search terms are what follows its
  leftmost occurrence.  Without a marker the whole request is searched for.

  The search terms become an expression of the full-text engine: operators are written
  as the engine has them, phrases stay as they are, and the blanks at either end go.

  SLOTS.  While an expression is laid out, each phrase is held by a slot: two
  underscores, the word PHRASE, the number of the phrase counting from zero, and two
  underscores.  Filling the slots puts the phrases back.  Search terms may spell a slot
  themselves.  Such a text is filled like a slot if a phrase has its number, in digits
  of any script, and kept otherwise; a number of more than `numeralLimit` digits is
  refused.

  Operators are written here before the slots are laid out.  To write them in the text
  with the slots comes to the same (`Request.expression_eq_fill_writeOperators`).
-/
import PlainSearch.Request.Clause
import PlainSearch.Request.Operator

set_option autoImplicit false

namespace PlainSearch

/-! ## Slots -/

namespace Slot


/-- What a slot begins with. -/
def front : Text := "__PHRASE".toList

/-- What a slot ends with. -/
def back : Text := "__".toList

/-- The slot of a number. -/
def text (n : Nat) : Text := front ++ Text.ofNat n ++ back

/-- The text of symbols in which slots, numbered from `n`, hold the phrases. -/
def layout : Nat → List Symbol → Text
  | _, [] => []
  | n, .char c :: ss => c :: layout n ss
  | n, .phrase _ :: ss => text n ++ layout (n + 1) ss

/-- The digits of the slot at the front of a text. -/
def digits? (t : Text) : Option Text :=
  match Text.stripPrefix? front t with
  | none => none
  | some r =>
    let ds := r.takeWhile Text.isDigit
    if ds = [] then none
    else (Text.stripPrefix? back (r.dropWhile Text.isDigit)).map fun _ => ds

/-- What fills a slot with these digits. -/
def filling (phrases : List Text) (ds : Text) : Except Fault Text :=
  match readNumeral ds with
  | .error e => .error e
  | .ok n => .ok (phrases[n]?.getD (front ++ ds ++ back))

/-- A text with its slots filled; the first `skip` characters are done with. -/
def fill (phrases : List Text) : Nat → Text → Except Fault Text
  | _, [] => .ok []
  | skip + 1, _ :: t => fill phrases skip t
  | 0, c :: t =>
    match digits? (c :: t) with
    | none => (fill phrases 0 t).map (c :: ·)
    | some ds =>
      match filling phrases ds with
      | .error e => .error e
      | .ok w => (fill phrases (front.length + ds.length + back.length - 1) t).map (w ++ ·)

end Slot

namespace Request

/-! ## Search terms -/

/-- The marker that counts in a text, and what follows its leftmost occurrence. -/
def select? (markers : List Text) (text : Text) : Option (Text × Text) :=
  markers.findSome? fun m => (Text.splitAtFirst? m text).map fun s => (m, s.2)

/-- The search terms of a text, and the marker that introduced them, if one did. -/
def terms (markers : List Text) (text : Text) : Except Fault (Option Text × Text) :=
  match select? markers text with
  | none => .ok (none, text)
  | some ([], _) => .error .emptyMarker
  | some (m, rest) => .ok (some m, Text.trim rest)

/-! ## Expressions -/

/-- The symbols of search terms once their operators are written. -/
def expressionSymbols (terms : Text) : List Symbol :=
  Token.symbolsOf (Token.writeOperators (Token.ofSymbols (Symbol.ofText terms)))

/-- Search terms as a search expression. -/
def expression (terms : Text) : Except Fault Text :=
  let phrases := Symbol.phrases (Symbol.ofText terms)
  (Slot.fill phrases 0 (Slot.layout 0 (expressionSymbols terms))).map Text.trim

/-- The search expression of a text. -/
def matchExpression (markers : List Text) (text : Text) : Except Fault Text :=
  match terms markers text with
  | .error e => .error e
  | .ok (_, ts) => expression ts

end Request
end PlainSearch
