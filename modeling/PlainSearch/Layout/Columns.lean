/-
  Layout/Columns.lean --- the columns that text takes on a screen.

  WHAT THIS FILE IS FOR.  Widths are counted in columns.  A control character and a
  character that separates lines or paragraphs take no column, every other
  character one.  Text is cut and padded by columns.

  Nothing here knows of characters that take two.
-/
import PlainSearch.Text.Basic

set_option autoImplicit false

namespace PlainSearch.Layout

/-- A character that takes no column. -/
def isWidthless (c : Char) : Bool :=
  c.toNat < 32 || (127 ≤ c.toNat && c.toNat < 160) || c.toNat = 0x2028 || c.toNat = 0x2029

/-- The columns that a character takes. -/
def columnsOf (c : Char) : Nat := if isWidthless c then 0 else 1

/-- The columns that a text takes. -/
def columns : Text → Nat
  | [] => 0
  | c :: t => columnsOf c + columns t

/-- As much of the beginning of a text as fits into so many columns. -/
def takeColumns (width : Nat) : Text → Text
  | [] => []
  | c :: t => if columnsOf c ≤ width then c :: takeColumns (width - columnsOf c) t else []

/-- A text with `c` behind it until it takes so many columns, where `c` takes one. -/
def padTo (width : Nat) (c : Char) (t : Text) : Text :=
  t ++ List.replicate (width - columns t) c

/-- A line in the middle of a width; of an odd number of blanks, the greater half follows it. -/
def centred (width : Nat) (line : Text) : Text :=
  padTo width ' ' (List.replicate ((width - columns line) / 2) ' ' ++ line)

end PlainSearch.Layout
