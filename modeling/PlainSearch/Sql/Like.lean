/-
  Sql/Like.lean --- patterns with wildcards.

  WHAT THIS FILE IS FOR.  The engine selects names by pattern: a percent sign
  stands for any run of characters, an underscore for any one character, and a
  character behind a backslash for itself.  Other characters stand for themselves
  up to the case of ASCII letters.

  To look for a text literally, `escape` puts a backslash before each of the three
  special characters.
-/
import PlainSearch.Text.LowerCase

set_option autoImplicit false

namespace PlainSearch.Sql.Like

/-- A text as a pattern that stands for it literally. -/
def escape (t : Text) : Text :=
  Text.substitute '_' ['\\', '_'] (Text.substitute '%' ['\\', '%']
    (Text.substitute '\\' ['\\', '\\'] t))

/-- The pattern of the texts that end with `t`. -/
def endingWith (t : Text) : Text := '%' :: escape t

/-- A piece of a pattern. -/
inductive Item where
  | run
  | one
  /-- a character, up to the case of ASCII letters -/
  | literal (c : Char)
  /-- a backslash with nothing behind it, which stands for nothing -/
  | dangling
  deriving DecidableEq, Repr

/-- The pieces of a pattern. -/
def items : Text → List Item
  | [] => []
  | ['\\'] => [.dangling]
  | '\\' :: c :: p => .literal c :: items p
  | '%' :: p => .run :: items p
  | '_' :: p => .one :: items p
  | c :: p => .literal c :: items p

/-- What may be left of a text after any run of characters at its front. -/
def suffixes : Text → List Text
  | [] => [[]]
  | c :: t => (c :: t) :: suffixes t

/-- A text has the form that the pieces of a pattern describe. -/
def matchesItems : List Item → Text → Bool
  | [], t => t = []
  | .run :: is, t => (suffixes t).any (matchesItems is)
  | .one :: is, _ :: t => matchesItems is t
  | .literal a :: is, c :: t =>
    Text.asciiLowerChar a = Text.asciiLowerChar c && matchesItems is t
  | .dangling :: _, _ => false
  | _ :: _, [] => false

/-- A text has the form that a pattern describes. -/
def holds (pattern t : Text) : Bool := matchesItems (items pattern) t

end PlainSearch.Sql.Like
