/-
  Text/Quoted.lean --- texts and bytes in quotation marks, as messages show them.

  WHAT THIS FILE IS FOR.  Log lines and error texts show a request or a name
  between quotation marks, so that its ends and its invisible characters can be
  seen.  The marks are single ones, unless the text holds a single mark and no
  double one.  A backslash, the mark in use, and every character that is not
  printable are escaped: \t \n \r by name, the others as \xNN, \uNNNN or
  \UNNNNNNNN, whichever is the shortest that fits.

  Bytes are shown the same way after the letter b, with every byte outside the
  printable ASCII range as \xNN.
-/
import PlainSearch.Text.PrintableTable

set_option autoImplicit false

namespace PlainSearch.Text

/-- A character that is shown as it is. -/
def isPrintable (c : Char) : Bool :=
  if c.toNat < 0x80 then 0x20 ≤ c.toNat && c.toNat ≤ 0x7e
  else inRanges printableRanges c.toNat

/-- A number in lower-case hexadecimal, padded with zeros to `width` digits. -/
def hex (width n : Nat) : Text := padLeft width '0' (Nat.toDigits 16 n)

/-- The shortest escape by number that has room for a code point. -/
def numericEscape (n : Nat) : Text :=
  if n < 0x100 then ['\\', 'x'] ++ hex 2 n
  else if n < 0x10000 then ['\\', 'u'] ++ hex 4 n
  else ['\\', 'U'] ++ hex 8 n

/-- The mark that a text is put between. -/
def quoteMark (t : Text) : Char := if t.contains '\'' && !t.contains '"' then '"' else '\''

/-- A character between the marks `q`; `plain` tells which characters are shown as they are. -/
def escapeChar (q : Char) (plain : Char → Bool) (c : Char) : Text :=
  if c = q ∨ c = '\\' then ['\\', c]
  else if c = '\t' then ['\\', 't']
  else if c = '\n' then ['\\', 'n']
  else if c = '\r' then ['\\', 'r']
  else if plain c then [c]
  else numericEscape c.toNat

/-- A text between quotation marks. -/
def quoted (t : Text) : Text :=
  let q := quoteMark t
  q :: t.flatMap (escapeChar q isPrintable) ++ [q]

/-- Bytes between quotation marks, after the letter b. -/
def quotedBytes (bs : List UInt8) : Text :=
  let t : Text := bs.map fun b => Char.ofNat b.toNat
  let q := quoteMark t
  'b' :: q :: t.flatMap (escapeChar q fun c => 0x20 ≤ c.toNat && c.toNat ≤ 0x7e) ++ [q]

/-- A list of texts in brackets, each between quotation marks. -/
def quotedList (ts : List Text) : Text := '[' :: joinWith [',', ' '] (ts.map quoted) ++ [']']

end PlainSearch.Text
