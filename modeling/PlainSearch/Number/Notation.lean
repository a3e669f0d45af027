/-
  Number/Notation.lean --- doubles as text, and back.

  WHAT THIS FILE IS FOR.  A double is written with its shortest digits:

      from 10^-4 up to, but not including, 10^16    positionally, at least one
                                                    digit on either side of the point
      below and above                               one digit, the others behind a
                                                    point, the letter e, a sign and an
                                                    exponent of at least two digits

  so 1e15 is 1000000000000000.0, 1e16 is 1e+16 and 0.00001 is 1e-05.  Zero keeps
  its sign.  How infinities and the not-a-number are spelled is left to the
  format that the number stands in.

  Reading accepts every usual spelling of a decimal number and rounds it.
-/
import PlainSearch.Number.Shortest
import PlainSearch.Text.LowerCase

set_option autoImplicit false

namespace PlainSearch.Double

/-- The spellings of the values that are no finite number. -/
structure Spelling where
  nan : Text
  infinity : Text
  deriving DecidableEq, Repr

/-- How values read as text spell them. -/
def plainSpelling : Spelling := ⟨"nan".toList, "inf".toList⟩

/-- A sign in front of a text, if the number is negative. -/
def signed (negative : Bool) (t : Text) : Text := if negative then '-' :: t else t

/-- Positional notation of digits whose point stands after the first `point` of them. -/
def positional (digits : Text) (point : Int) : Text :=
  if point ≤ 0 then ['0', '.'] ++ List.replicate (-point).toNat '0' ++ digits
  else
    let whole := Text.padRight point.toNat '0' (digits.take point.toNat)
    let part := digits.drop point.toNat
    whole ++ ['.'] ++ (if part = [] then ['0'] else part)

/-- Scientific notation of digits that stand before the power of ten of their first one. -/
def scientific (digits : Text) (power : Int) : Text :=
  let head := match digits with
    | [] => ['0']
    | [d] => [d]
    | d :: ds => d :: '.' :: ds
  head ++ ['e', if power < 0 then '-' else '+'] ++ Text.padLeft 2 '0' (Text.ofNat power.natAbs)

/-- A finite number from its shortest digits. -/
def decimalText (d : Decimal) : Text :=
  let digits := Text.ofNat d.digits
  let point : Int := digits.length + d.exponent
  if d.digits = 0 then ['0', '.', '0']
  else if -4 < point ∧ point ≤ 16 then positional digits point
  else scientific digits (point - 1)

/-- A double as text, with the given spelling of its exceptional values. -/
def toTextWith (s : Spelling) : Double → Text
  | .nan => s.nan
  | .infinite negative => signed negative s.infinity
  | .finite negative e f => signed negative (decimalText (shortest negative e f))

/-- A double as text. -/
def toText (x : Double) : Text := x.toTextWith plainSpelling

/-! ## Reading -/

/-- A sign at the front of a text, and what follows it. -/
def readSign : Text → Bool × Text
  | '-' :: t => (true, t)
  | '+' :: t => (false, t)
  | t => (false, t)

/-- The exponent at the end of a number: nothing, or a letter e, a sign and digits. -/
def readExponent? : Text → Option Int
  | [] => some 0
  | c :: t =>
    if c = 'e' ∨ c = 'E' then
      let (negative, ds) := readSign t
      if ds ≠ [] ∧ ds.all Text.isAsciiDigit then
        let n : Int := Text.numeralValue ds
        some (if negative then -n else n)
      else none
    else none

/-- A number without a sign: digits, a point with digits behind it, an exponent.  Digits are
required on one side of the point. -/
def readMagnitude? (negative : Bool) (t : Text) : Option Double :=
  let whole := t.takeWhile Text.isAsciiDigit
  let rest := t.dropWhile Text.isAsciiDigit
  let (part, rest) := match rest with
    | '.' :: r => (r.takeWhile Text.isAsciiDigit, r.dropWhile Text.isAsciiDigit)
    | r => ([], r)
  if whole = [] ∧ part = [] then none
  else (readExponent? rest).map fun e =>
    ofDecimal negative (Text.numeralValue (whole ++ part)) (e - part.length)

/-- The double that a text stands for. -/
def ofText? (t : Text) : Option Double :=
  let (negative, m) := readSign t
  let word := m.map Text.asciiLowerChar
  if word = "inf".toList ∨ word = "infinity".toList then some (.infinite negative)
  else if word = "nan".toList then some .nan
  else readMagnitude? negative m

end PlainSearch.Double
