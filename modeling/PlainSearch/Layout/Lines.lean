/-
  Layout/Lines.lean --- text in lines of a bounded width.

  WHAT THIS FILE IS FOR.  Text for a screen is broken into lines at blanks.  A word
  goes onto the current line if it fits there without the blanks behind it, and
  begins a new line otherwise.  A word wider than the screen begins a line; it is
  cut into pieces of the full width, of which the last one is then a line like any
  other, or else its end is left out (`Overflow`).

  A line break in the text ends a line, a tab goes on to the next eighth column,
  and the control characters that move a printer are left out.  In a listing a tab
  goes on to the next fourth character, and a carriage return ends a line too.

  Nothing else is lost before the last step, which drops the blanks that reach beyond
  the width, so that every line fits.
-/
import PlainSearch.Layout.Columns
import PlainSearch.Text.Blank

set_option autoImplicit false

namespace PlainSearch.Layout

/-! ## Words -/

/-- A word read so far, last character first, is complete when a blank follows its letters. -/
def isComplete (word : Text) : Bool :=
  (word.head?.map Text.isBlank).getD false && word.any fun c => !Text.isBlank c

/-- The words of a text, of which `word` is already read, last character first. -/
def wordsFrom (word : Text) : Text → List Text
  | [] => if word = [] then [] else [word.reverse]
  | c :: t =>
    if isComplete word && !Text.isBlank c then word.reverse :: wordsFrom [c] t
    else wordsFrom (c :: word) t

/-- The words of a text, each with the blanks behind it, and the first also with the blanks in
front of it. -/
def words (t : Text) : List Text := wordsFrom [] t

/-! ## Pieces -/

/-- The pieces of a text, of which `piece` is already read. -/
def piecesFrom (width : Nat) (piece : Text) : Text → List Text
  | [] => [piece]
  | c :: t =>
    if columns piece + columnsOf c ≤ width then piecesFrom width (piece ++ [c]) t
    else piece :: piecesFrom width [c] t

/-- A text in pieces of a width; only the last one may be narrower. -/
def pieces (width : Nat) (t : Text) : List Text := piecesFrom width [] t

/-! ## Lines -/

/-- What becomes of a word that is wider than a line. -/
inductive Overflow where
  /-- it is cut into pieces -/
  | folded
  /-- its end is left out, which three dots in one column show -/
  | dotted
  deriving DecidableEq, Repr

/-- A text without the blanks at its end. -/
def trimEnd (t : Text) : Text := (t.reverse.dropWhile Text.isBlank).reverse

/-- Puts words after the current line. -/
def fill (o : Overflow) (width : Nat) (line : Text) : List Text → List Text
  | [] => [line]
  | w :: ws =>
    let wide := columns (trimEnd w)
    if columns line + wide ≤ width then fill o width (line ++ w) ws
    else
      let cut := if o = .folded ∧ width < wide then pieces width w else [w]
      (if line = [] then [] else [line]) ++ cut.dropLast ++ fill o width (cut.getLast?.getD []) ws

/-- A line without such blanks at its end as are beyond the width, by characters. -/
def trimBeyond (width : Nat) (line : Text) : Text := line.take (max width (trimEnd line).length)

/-- A line that is no wider than a width of at least one column. -/
def crop (o : Overflow) (width : Nat) (line : Text) : Text :=
  if columns line ≤ width then line
  else match o with
    | .folded => takeColumns width line
    | .dotted => takeColumns (width - 1) line ++ ['…']

/-- A character that is not shown: bell, backspace, vertical tab, form feed, carriage return. -/
def isHidden (c : Char) : Bool := [7, 8, 11, 12, 13].contains c.toNat

/-- A text with blanks in place of its tabs, each of which goes on to the next multiple of `stop`.
A character counts for what `size` says, and `position` is where the text begins. -/
def withoutTabs (stop : Nat) (size : Char → Nat) (position : Nat) : Text → Text
  | [] => []
  | c :: t =>
    if c = '\t' then
      let gap := stop - position % stop
      List.replicate gap ' ' ++ withoutTabs stop size (position + gap) t
    else if c = '\n' ∨ c = '\r' then c :: withoutTabs stop size 0 t
    else c :: withoutTabs stop size (position + size c) t

/-- One line of a text, in as many lines of a width as it takes. -/
def wrapLine (o : Overflow) (width : Nat) (t : Text) : List Text :=
  (fill o width [] (words (withoutTabs 8 columnsOf 0 t))).map fun line =>
    crop o width (trimBeyond width line)

/-- A text in lines of a width.  Where there are no columns, there is one line with nothing in
it. -/
def wrap (o : Overflow) (width : Nat) (t : Text) : List Text :=
  if width = 0 then [[]]
  else (Text.splitOn '\n' (t.filter fun c => !isHidden c)).flatMap (wrapLine o width)

/-! ## Listings -/

/-- A text in which a line is ended by a line break alone, where it was ended by a carriage return
or by both. -/
def withLineBreaks : Text → Text
  | '\r' :: '\n' :: t => '\n' :: withLineBreaks t
  | '\r' :: t => '\n' :: withLineBreaks t
  | c :: t => c :: withLineBreaks t
  | [] => []

/-- A text in lines of a width, as a listing. -/
def listing (width : Nat) (t : Text) : List Text :=
  wrap .folded width (withLineBreaks (withoutTabs 4 (fun _ => 1) 0 t))

/-! ## Screens -/

/-- Lines as text, each ended by a line break. -/
def text (lines : List Text) : Text := lines.flatMap (· ++ ['\n'])

/-- The columns of a screen. -/
def screenWidth : Nat := 80

end PlainSearch.Layout
