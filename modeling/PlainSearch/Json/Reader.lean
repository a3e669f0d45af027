/-
  Json/Reader.lean --- values from JSON documents.

  WHAT THIS FILE IS FOR.  This reader takes the JSON grammar to the letter and
  nothing beyond it: no comments, no commas before a closing bracket, no numbers
  with a plus sign or with zeros in front, no control characters inside strings,
  and no words but null, true and false.  So the spellings that the writer has for
  the infinities are refused here.

  A number without a fraction and without an exponent is an integer of its full
  size, any other is a double.  An escape that is half of a surrogate pair stands
  for no character and is refused without the other half.

  Every step consumes a character at least, so a document is read with as much fuel
  as it has characters, and one more.
-/
import PlainSearch.Datum.Basic

set_option autoImplicit false

namespace PlainSearch.Json

/-- A value at the front of a text, and what follows it. -/
abbrev Reading (α : Type) : Type := Option (α × Text)

/-- White space between the parts of a document. -/
def isGap (c : Char) : Bool := c = ' ' || c = '\t' || c = '\n' || c = '\r'

/-- A text without the white space in front. -/
def skip (t : Text) : Text := t.dropWhile isGap

/-- What follows the character `c` at the front of a text. -/
def after? (c : Char) : Text → Option Text
  | a :: t => if a = c then some t else none
  | [] => none

/-! ## Strings -/

/-- The value of a hexadecimal digit. -/
def hexValue? (c : Char) : Option Nat :=
  if '0' ≤ c ∧ c ≤ '9' then some (c.toNat - '0'.toNat)
  else if 'a' ≤ c ∧ c ≤ 'f' then some (c.toNat - 'a'.toNat + 10)
  else if 'A' ≤ c ∧ c ≤ 'F' then some (c.toNat - 'A'.toNat + 10)
  else none

/-- A sixteen-bit unit of four hexadecimal digits. -/
def readUnit? : Text → Reading Nat
  | a :: b :: c :: d :: t =>
    match hexValue? a, hexValue? b, hexValue? c, hexValue? d with
    | some a, some b, some c, some d => some (((a * 16 + b) * 16 + c) * 16 + d, t)
    | _, _, _, _ => none
  | _ => none

/-- The number is the first half of a surrogate pair. -/
def isHigh (n : Nat) : Bool := 0xd800 ≤ n && n < 0xdc00

/-- The number is the second half of a surrogate pair. -/
def isLow (n : Nat) : Bool := 0xdc00 ≤ n && n < 0xe000

/-- The character of an escape by number: one unit, or a pair of surrogates. -/
def readNumberEscape? (t : Text) : Reading Char :=
  match readUnit? t with
  | none => none
  | some (n, r) =>
    if isHigh n then
      match r with
      | '\\' :: 'u' :: r =>
        match readUnit? r with
        | none => none
        | some (m, r) =>
          if isLow m then
            some (Char.ofNat (0x10000 + (n - 0xd800) * 0x400 + (m - 0xdc00)), r)
          else none
      | _ => none
    else if isLow n then none
    else some (Char.ofNat n, r)

/-- The character of an escape, behind its backslash. -/
def readEscape? : Text → Reading Char
  | '"' :: t => some ('"', t)
  | '\\' :: t => some ('\\', t)
  | '/' :: t => some ('/', t)
  | 'b' :: t => some ('\x08', t)
  | 'f' :: t => some ('\x0c', t)
  | 'n' :: t => some ('\n', t)
  | 'r' :: t => some ('\r', t)
  | 't' :: t => some ('\t', t)
  | 'u' :: t => readNumberEscape? t
  | _ => none

/-- The characters of a string up to the quotation mark at its end. -/
def readChars? : Nat → Text → Reading Text
  | 0, _ => none
  | _ + 1, [] => none
  | fuel + 1, c :: t =>
    if c = '"' then some ([], t)
    else if c = '\\' then
      match readEscape? t with
      | none => none
      | some (a, r) => (readChars? fuel r).map fun p => (a :: p.1, p.2)
    else if c.toNat < 0x20 then none
    else (readChars? fuel t).map fun p => (c :: p.1, p.2)

/-- A string. -/
def readString? (fuel : Nat) (t : Text) : Reading Text :=
  (after? '"' t).bind (readChars? fuel)

/-! ## Numbers -/

/-- The whole part of a number: zero, or digits that begin with another one. -/
def readWhole? (t : Text) : Reading Text :=
  match t.takeWhile Text.isAsciiDigit, t.dropWhile Text.isAsciiDigit with
  | [], _ => none
  | ['0'], r => some (['0'], r)
  | '0' :: _, _ => none
  | ds, r => some (ds, r)

/-- At least one digit. -/
def readDigits? (t : Text) : Reading Text :=
  match t.takeWhile Text.isAsciiDigit with
  | [] => none
  | ds => some (ds, t.dropWhile Text.isAsciiDigit)

/-- The fraction of a number, with its point; it may be missing. -/
def readFraction? : Text → Reading Text
  | '.' :: t => (readDigits? t).map fun p => ('.' :: p.1, p.2)
  | t => some ([], t)

/-- The sign of an exponent; it may be missing. -/
def readExponentSign : Text → Text × Text
  | '+' :: t => (['+'], t)
  | '-' :: t => (['-'], t)
  | t => ([], t)

/-- The exponent of a number, with its letter and sign; it may be missing. -/
def readExponent? : Text → Reading Text
  | [] => some ([], [])
  | c :: t =>
    if c = 'e' ∨ c = 'E' then
      let (sign, r) := readExponentSign t
      (readDigits? r).map fun p => (c :: sign ++ p.1, p.2)
    else some ([], c :: t)

/-- A number without its sign. -/
def readMagnitude? (negative : Bool) (t : Text) : Reading Datum :=
  match readWhole? t with
  | none => none
  | some (whole, r) =>
    match readFraction? r with
    | none => none
    | some (fraction, r) =>
      match readExponent? r with
      | none => none
      | some ([], r) =>
        if fraction = [] then
          let n : Int := Text.numeralValue whole
          some (.int (if negative then -n else n), r)
        else (Double.readMagnitude? negative (whole ++ fraction)).map fun x => (.real x, r)
      | some (exponent, r) =>
        (Double.readMagnitude? negative (whole ++ fraction ++ exponent)).map fun x => (.real x, r)

/-- A number. -/
def readNumber? : Text → Reading Datum
  | '-' :: t => readMagnitude? true t
  | t => readMagnitude? false t

/-! ## Values -/

/-- A word that stands for a value. -/
def readWord? (t : Text) : Reading Datum :=
  match Text.stripPrefix? "null".toList t with
  | some r => some (.null, r)
  | none =>
    match Text.stripPrefix? "true".toList t with
    | some r => some (.bool true, r)
    | none => (Text.stripPrefix? "false".toList t).map fun r => (.bool false, r)

mutual

/-- A value at the front of a text. -/
def readValue? : Nat → Text → Reading Datum
  | 0, _ => none
  | _ + 1, [] => none
  | fuel + 1, c :: t =>
    if c = '"' then (readChars? fuel t).map fun p => (.text p.1, p.2)
    else if c = '[' then
      match after? ']' (skip t) with
      | some r => some (.list [], r)
      | none => (readItems? fuel t).map fun p => (.list p.1, p.2)
    else if c = '{' then
      match after? '}' (skip t) with
      | some r => some (.record [], r)
      | none => (readFields? fuel t).map fun p => (.record p.1, p.2)
    else if c = '-' ∨ Text.isAsciiDigit c then readNumber? (c :: t)
    else readWord? (c :: t)

/-- The items of a list, at least one, up to the closing bracket. -/
def readItems? : Nat → Text → Reading (List Datum)
  | 0, _ => none
  | fuel + 1, t =>
    match readValue? fuel (skip t) with
    | none => none
    | some (v, r) =>
      match skip r with
      | ',' :: r => (readItems? fuel r).map fun p => (v :: p.1, p.2)
      | ']' :: r => some ([v], r)
      | _ => none

/-- The fields of a record, at least one, up to the closing brace. -/
def readFields? : Nat → Text → Reading Fields
  | 0, _ => none
  | fuel + 1, t =>
    match readString? fuel (skip t) with
    | none => none
    | some (k, r) =>
      match (after? ':' (skip r)).bind fun r => readValue? fuel (skip r) with
      | none => none
      | some (v, r) =>
        match skip r with
        | ',' :: r => (readFields? fuel r).map fun p => ((k, v) :: p.1, p.2)
        | '}' :: r => some ([(k, v)], r)
        | _ => none

end

/-- The value that a whole document stands for. -/
def read? (t : Text) : Option Datum :=
  match readValue? (t.length + 1) (skip t) with
  | some (v, r) => if skip r = [] then some v else none
  | none => none

/-! ## Steps of the reader -/

/-- A character that is no white space stays where it is. -/
theorem skip_cons {c : Char} (t : Text) (h : isGap c = false) : skip (c :: t) = c :: t := by
  simp [skip, h]

end PlainSearch.Json
