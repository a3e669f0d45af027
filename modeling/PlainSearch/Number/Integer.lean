/-
  Number/Integer.lean --- integers as users write them.

  WHAT THIS FILE IS FOR.  There are two readers of integers.

      `ofSetting`   the value of a setting: digits from 0 to 9.  White space may
                    stand around them, a sign in front, single underscores between
                    them, and a point with zeros behind them.  Zeros in front count
                    for nothing, and neither do underscores among these; a minus
                    sign may follow them.
      `ofNumeral`   a number inside a text of another form: digits of any script,
                    white space, a sign and single underscores.

  Either refuses more than `numeralLimit` digits.  A setting is first looked at as
  it stands, as a plain numeral; too long a numeral is told from a malformed one only
  then.
-/
import PlainSearch.Fault
import PlainSearch.Text.Blank

set_option autoImplicit false

namespace PlainSearch.Integer

/-! ## Bounds -/

/-- One more than the greatest signed 64-bit integer: two to the power of sixty-three. -/
def wordBound : Int := 9223372036854775808

/-- One more than the greatest signed 32-bit integer: two to the power of thirty-one. -/
def halfWordBound : Int := 2147483648

/-- A number with a sign. -/
def withSign (negative : Bool) (n : Nat) : Int := if negative then -(n : Int) else n

/-! ## Settings -/

/-- Why a text is no integer. -/
inductive Refusal where
  | malformed
  | tooLong
  deriving DecidableEq, Repr

/-- Digits that do not begin with a zero unless they end with it.  A sign in front of them counts
as a digit towards the limit. -/
def ofDigits (negative : Bool) (digits : Text) : Except Refusal Int :=
  let run := digits.takeWhile Text.isAsciiDigit
  if run = [] ∨ (run.head? = some '0' ∧ run ≠ ['0']) then .error .malformed
  else if numeralLimit < run.length + (if negative then 1 else 0) then .error .tooLong
  else if run ≠ digits then .error .malformed
  else .ok (withSign negative (Text.numeralValue run))

/-- A plain numeral: a minus sign or none, and digits. -/
def ofPlain : Text → Except Refusal Int
  | '-' :: digits => ofDigits true digits
  | digits => ofDigits false digits

/-- What counts for nothing in front of a numeral: zeros, and underscores among them. -/
def isFiller (c : Char) : Bool := c = '0' || c = '_'

/-- A text without the zeros it begins with, and without the underscores among them.  What
follows them is a digit or a minus sign; in front of a point or at the end the last of them
stays. -/
def withoutLeadingZeros? : Text → Option Text
  | '0' :: r =>
    let last := (r.takeWhile isFiller).getLast?.getD '0'
    match r.dropWhile isFiller with
    | [] => some [last]
    | '.' :: t => some (last :: '.' :: t)
    | c :: t => if Text.isAsciiDigit c || c = '-' then some (c :: t) else none
  | c :: t => if Text.isAsciiDigit c || c = '-' then some (c :: t) else none
  | [] => none

/-- A numeral without a point and the zeros behind it. -/
def withoutZeroFraction (t : Text) : Text :=
  match t.dropWhile (· ≠ '.') with
  | _ :: z :: zs => if (z :: zs).all (· = '0') then t.takeWhile (· ≠ '.') else t
  | _ => t

/-- A numeral without the underscores in it, if they stand one by one between other characters. -/
def ungrouped (t : Text) : Text :=
  let groups := Text.splitOn '_' t
  if groups.all (· ≠ []) then groups.flatten else t

/-- The plain numeral that a text with white space, a sign, zeros, a point or underscores may come
down to. -/
def plain? (t : Text) : Option Text :=
  let bare? (m : Text) : Option Text :=
    (withoutLeadingZeros? m).map fun m => ungrouped (withoutZeroFraction m)
  match Text.trimBy Text.isSpace t with
  | '+' :: '-' :: _ => none
  | '+' :: m => bare? m
  | '-' :: m => (bare? m).map ('-' :: ·)
  | m => bare? m

/-- The integer that the value of a setting stands for. -/
def ofSetting (t : Text) : Except Refusal Int :=
  match ofPlain t with
  | .error .malformed =>
    match (plain? t).map ofPlain with
    | some (.ok n) => .ok n
    | _ => .error .malformed
  | r => r

/-! ## Numbers inside other texts -/

/-- Why a text is no numeral. -/
inductive NumeralFault where
  | malformed
  /-- it begins with too many digits -/
  | tooLong (digits : Nat)
  deriving DecidableEq, Repr

/-- A character of a numeral: a digit, or an underscore between digits. -/
def isPart (c : Char) : Bool := Text.isDigit c || c = '_'

/-- The integer that a numeral stands for. -/
def ofNumeral (t : Text) : Except NumeralFault Int :=
  let (negative, m) := Double.readSign (Text.trimBy Text.isSpace t)
  let groups := Text.splitOn '_' (m.takeWhile isPart)
  let digits := groups.flatten
  if groups.any (· = []) then .error .malformed
  else if numeralLimit < digits.length then .error (.tooLong digits.length)
  else if (m.dropWhile isPart) ≠ [] then .error .malformed
  else .ok (withSign negative (Text.numeralValue digits))

end PlainSearch.Integer
