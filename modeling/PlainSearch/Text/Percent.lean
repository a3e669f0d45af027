/-
  Text/Percent.lean --- characters written as percent signs and hexadecimal digits.

  WHAT THIS FILE IS FOR.  In a URL a byte may be written as a percent sign and two
  hexadecimal digits.  Reading takes such triples for their bytes and all else for
  itself, and then reads the bytes as UTF-8; a percent sign without two digits is a
  percent sign.  Writing keeps ASCII letters and digits, `_`, `.`, `-`, `~` and the
  characters that are safe where the text goes.
-/
import PlainSearch.Text.Quoted
import PlainSearch.Text.Utf8

set_option autoImplicit false

namespace PlainSearch.Percent

/-- What a hexadecimal digit is worth. -/
def hexValue? (c : Char) : Option Nat :=
  let n := c.toNat
  if 0x30 ≤ n ∧ n ≤ 0x39 then some (n - 0x30)
  else if 0x41 ≤ n ∧ n ≤ 0x46 then some (n - 0x37)
  else if 0x61 ≤ n ∧ n ≤ 0x66 then some (n - 0x57)
  else none

/-- The byte that two hexadecimal digits stand for. -/
def byte? (a b : Char) : Option UInt8 :=
  match hexValue? a, hexValue? b with
  | some x, some y => some (UInt8.ofNat (0x10 * x + y))
  | _, _ => none

/-- The bytes that a text stands for. -/
def bytes : Text → List UInt8
  | [] => []
  | '%' :: a :: b :: t =>
    match byte? a b with
    | some x => x :: bytes t
    | none => String.utf8EncodeChar '%' ++ bytes (a :: b :: t)
  | c :: t => String.utf8EncodeChar c ++ bytes t

/-- A text with bytes in place of its triples. -/
def decode (t : Text) : Text := Utf8.decodeLossy (bytes t)

/-- A character that is written as it is wherever it stands. -/
def isPlain (c : Char) : Bool :=
  Text.inRanges [(0x2d, 0x2e), (0x30, 0x39), (0x41, 0x5a), (0x5f, 0x5f), (0x61, 0x7a),
    (0x7e, 0x7e)] c.toNat

/-- A byte as a percent sign and two hexadecimal digits. -/
def triple (b : UInt8) : Text := '%' :: (Text.hex 2 b.toNat).map Char.toUpper

/-- A text with triples in place of all characters that are neither plain nor safe. -/
def encode (safe : Text) (t : Text) : Text :=
  t.flatMap fun c =>
    if isPlain c || safe.contains c then [c] else (String.utf8EncodeChar c).flatMap triple

end PlainSearch.Percent
