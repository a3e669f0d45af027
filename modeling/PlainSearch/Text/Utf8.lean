/-
  Text/Utf8.lean --- text as bytes in UTF-8, and back.

  WHAT THIS FILE IS FOR.  Bytes are read as UTF-8 from left to right, in parts.  A
  part is either a character or the longest run of bytes that could have begun one
  and did not go on as it should; a byte that can begin none is a part by itself.
  Shortest forms only count, and no surrogates.

  Bytes that have to be a text are one if every part is a character (`decode?`).
  Where any bytes are taken, a part that is none counts as the replacement
  character (`decodeLossy`).
-/
import PlainSearch.Text.Basic

set_option autoImplicit false

namespace PlainSearch.Utf8

/-- A text as bytes. -/
def encode (t : Text) : List UInt8 := t.flatMap String.utf8EncodeChar

/-- The ranges of the bytes that must follow a first byte; nothing if none can be first. -/
def rangesAfter? (first : Nat) : Option (List (Nat × Nat)) :=
  let any := (0x80, 0xbf)
  if first ≤ 0x7f then some []
  else if 0xc2 ≤ first ∧ first ≤ 0xdf then some [any]
  else if first = 0xe0 then some [(0xa0, 0xbf), any]
  else if first = 0xed then some [(0x80, 0x9f), any]
  else if 0xe1 ≤ first ∧ first ≤ 0xef then some [any, any]
  else if first = 0xf0 then some [(0x90, 0xbf), any, any]
  else if 0xf1 ≤ first ∧ first ≤ 0xf3 then some [any, any, any]
  else if first = 0xf4 then some [(0x80, 0x8f), any, any]
  else none

/-- The bytes in front that lie in the ranges, range by range. -/
def fitting : List (Nat × Nat) → List UInt8 → List UInt8
  | r :: rs, b :: bs =>
    if r.1 ≤ b.toNat ∧ b.toNat ≤ r.2 then b :: fitting rs bs else []
  | _, _ => []

/-- The character of a first byte and the bytes that follow it, each of which adds six bits. -/
def charOf (first : Nat) (rest : List UInt8) : Char :=
  let high := match rest.length with
    | 0 => first
    | 1 => first % 0x20
    | 2 => first % 0x10
    | _ => first % 0x08
  Char.ofNat (rest.foldl (fun n b => 0x40 * n + b.toNat % 0x40) high)

/-- Bytes part by part: characters, and nothing for a part that is none. -/
def parts : List UInt8 → List (Option Char)
  | [] => []
  | b :: bs =>
    match rangesAfter? b.toNat with
    | none => none :: parts bs
    | some ranges =>
      let rest := fitting ranges bs
      (if rest.length = ranges.length then some (charOf b.toNat rest) else none)
        :: parts (bs.drop rest.length)
  termination_by bs => bs.length
  decreasing_by all_goals (simp; try omega)

/-- The text that bytes stand for, if they stand for one. -/
def decode? (bs : List UInt8) : Option Text := (parts bs).mapM id

/-- The text that bytes stand for, with replacement characters for what is none. -/
def decodeLossy (bs : List UInt8) : Text := (parts bs).map (·.getD '\ufffd')

end PlainSearch.Utf8
