/-
  Layout/Markup.lean --- marks in text for a screen.

  WHAT THIS FILE IS FOR.  Text for a screen may hold marks that tell how it is to be
  shown.  A mark stands between square brackets and begins with a small letter, a
  number sign, a slash or an at sign; it takes no place in what is shown.  All that
  is kept of it here is that it goes away.

  RULES.
    * Of the backslashes in front of a mark every two count as one; an odd one makes
      the mark a text like any other.
    * In front of a bracket that opens no mark, a backslash is left out.
    * A mark ends at the next closing bracket, unless a bracket opens before that.
-/
import PlainSearch.Text.Basic

set_option autoImplicit false

namespace PlainSearch.Layout.Markup

/-- What a mark can begin with. -/
def isMarkStart (c : Char) : Bool := ('a' ≤ c && c ≤ 'z') || c = '#' || c = '/' || c = '@'

/-- A text begins with a mark. -/
def beginsMark : Text → Bool
  | '[' :: c :: t => isMarkStart c && (t.find? fun d => d = '[' || d = ']') = some ']'
  | _ => false

/-- Where a text is read on. -/
inductive Place where
  /-- outside marks, behind so many backslashes -/
  | outside (slashes : Nat)
  /-- in a mark, which is shown if it is taken for text -/
  | inside (shown : Bool)
  deriving DecidableEq, Repr

/-- What is shown of a text that is read on at a place. -/
def plainFrom : Place → Text → Text
  | .outside n, [] => List.replicate n '\\'
  | .inside _, [] => []
  | .inside shown, c :: t =>
    let rest := plainFrom (if c = ']' then .outside 0 else .inside shown) t
    if shown then c :: rest else rest
  | .outside n, c :: t =>
    if c = '\\' then plainFrom (.outside (n + 1)) t
    else if beginsMark (c :: t) then
      List.replicate (n / 2) '\\' ++
        (if n % 2 = 1 then c :: plainFrom (.inside true) t else plainFrom (.inside false) t)
    else List.replicate (if c = '[' then n - 1 else n) '\\' ++ c :: plainFrom (.outside 0) t

/-- What is shown of a text. -/
def plain (t : Text) : Text := plainFrom (.outside 0) t

end PlainSearch.Layout.Markup
