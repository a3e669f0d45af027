/-
  Json/Writer.lean --- values as JSON documents.

  WHAT THIS FILE IS FOR.  Results leave the program as JSON.  The layout is fixed:
  every item of a list and every field of a record stands on a line of its own,
  two spaces further in than the brackets around it, and an empty list or record
  is written without a line break.  Only ASCII is written: a character outside
  the range from space to tilde is escaped, beyond U+FFFF as a pair of
  surrogates.  Bytes, which JSON lacks, are written as their quoted text.
-/
import PlainSearch.Datum.Basic

set_option autoImplicit false

namespace PlainSearch.Json

/-! ## Strings -/

/-- A sixteen-bit unit as an escape. -/
def unitEscape (n : Nat) : Text := ['\\', 'u'] ++ Text.hex 4 n

/-- The escape of a character by its number: one unit, or a pair of surrogates. -/
def numberEscape (n : Nat) : Text :=
  if n < 0x10000 then unitEscape n
  else unitEscape (0xd800 + (n - 0x10000) / 0x400) ++ unitEscape (0xdc00 + (n - 0x10000) % 0x400)

/-- A character inside a JSON string. -/
def escapeChar (c : Char) : Text :=
  if c = '"' ∨ c = '\\' then ['\\', c]
  else if c = '\n' then ['\\', 'n']
  else if c = '\r' then ['\\', 'r']
  else if c = '\t' then ['\\', 't']
  else if c = '\x0c' then ['\\', 'f']
  else if c = '\x08' then ['\\', 'b']
  else if 0x20 ≤ c.toNat ∧ c.toNat ≤ 0x7e then [c]
  else numberEscape c.toNat

/-- A text as a JSON string. -/
def string (t : Text) : Text := '"' :: t.flatMap escapeChar ++ ['"']

/-! ## Documents -/

/-- How a document spells the values that are no finite number. -/
def spelling : Double.Spelling := ⟨"NaN".toList, "Infinity".toList⟩

/-- A new line, `depth` levels in. -/
def newline (depth : Nat) : Text := '\n' :: List.replicate (2 * depth) ' '

mutual

/-- A value, `depth` levels in. -/
def render (depth : Nat) : Datum → Text
  | .null => "null".toList
  | .bool b => if b then "true".toList else "false".toList
  | .int n => Text.ofInt n
  | .real x => x.toTextWith spelling
  | .text t => string t
  | .bytes bs => string (Text.quotedBytes bs)
  | .list [] => ['[', ']']
  | .list (x :: xs) => '[' :: renderItems (depth + 1) (x :: xs) ++ newline depth ++ [']']
  | .record [] => ['{', '}']
  | .record (f :: fs) => '{' :: renderFields (depth + 1) (f :: fs) ++ newline depth ++ ['}']

/-- The items of a list, each on its line, with commas between them. -/
def renderItems (depth : Nat) : List Datum → Text
  | [] => []
  | [x] => newline depth ++ render depth x
  | x :: y :: xs => newline depth ++ render depth x ++ [','] ++ renderItems depth (y :: xs)

/-- The fields of a record, each on its line, with commas between them. -/
def renderFields (depth : Nat) : List (Text × Datum) → Text
  | [] => []
  | [(k, v)] => newline depth ++ string k ++ [':', ' '] ++ render depth v
  | (k, v) :: f :: fs =>
    newline depth ++ string k ++ [':', ' '] ++ render depth v ++ [','] ++ renderFields depth (f :: fs)

end

/-- A value as a whole document. -/
def document (v : Datum) : Text := render 0 v

end PlainSearch.Json
