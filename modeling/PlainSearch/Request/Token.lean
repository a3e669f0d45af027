/-
  Request/Token.lean --- search terms as words, gaps and marks.

  WHAT THIS FILE IS FOR.  Operators are whole words, so search terms are read as
  tokens: maximal runs of symbols that continue a word, maximal runs of blanks,
  and every other character by itself.  A phrase that touches letters belongs to
  their word.

  `symbolsOf_ofSymbols` says that nothing is lost on the way.
-/
import PlainSearch.Request.Phrase
import PlainSearch.Text.Blank

set_option autoImplicit false

namespace PlainSearch

/-- A piece of the search terms. -/
inductive Token where
  /-- a word, made of characters and phrases that touch -/
  | word (ss : List Symbol)
  | gap (cs : Text)
  /-- a character that is neither part of a word nor blank -/
  | mark (c : Char)
  deriving DecidableEq, Repr

namespace Token

/-- The symbols of a token. -/
def symbols : Token → List Symbol
  | .word ss => ss
  | .gap cs => Symbol.ofPlain cs
  | .mark c => [.char c]

/-- The symbols of several tokens. -/
def symbolsOf (ts : List Token) : List Symbol := ts.flatMap symbols

/-- Puts a wordlike symbol in front: into the word that follows, or as a word of its own. -/
def consWord (s : Symbol) : List Token → List Token
  | .word ss :: ts => .word (s :: ss) :: ts
  | ts => .word [s] :: ts

/-- Puts a blank in front: into the gap that follows, or as a gap of its own. -/
def consBlank (c : Char) : List Token → List Token
  | .gap cs :: ts => .gap (c :: cs) :: ts
  | ts => .gap [c] :: ts

/-- Puts a symbol in front of tokens. -/
def consSymbol (s : Symbol) (ts : List Token) : List Token :=
  match s with
  | .phrase b => consWord (.phrase b) ts
  | .char c =>
    if Text.isWordChar c then consWord (.char c) ts
    else if Text.isBlank c then consBlank c ts
    else .mark c :: ts

/-- The tokens of symbols. -/
def ofSymbols (ss : List Symbol) : List Token := ss.foldr consSymbol []

theorem symbolsOf_consWord (s : Symbol) (ts : List Token) :
    symbolsOf (consWord s ts) = s :: symbolsOf ts := by
  unfold consWord
  split <;> simp [symbolsOf, symbols]

theorem symbolsOf_consBlank (c : Char) (ts : List Token) :
    symbolsOf (consBlank c ts) = .char c :: symbolsOf ts := by
  unfold consBlank
  split <;> simp [symbolsOf, symbols, Symbol.ofPlain]

theorem symbolsOf_consSymbol (s : Symbol) (ts : List Token) :
    symbolsOf (consSymbol s ts) = s :: symbolsOf ts := by
  unfold consSymbol
  split
  · exact symbolsOf_consWord _ ts
  · split
    · exact symbolsOf_consWord _ ts
    · split
      · exact symbolsOf_consBlank _ ts
      · simp [symbolsOf, symbols]

/-- Reading symbols as tokens loses nothing. -/
theorem symbolsOf_ofSymbols (ss : List Symbol) : symbolsOf (ofSymbols ss) = ss := by
  induction ss with
  | nil => rfl
  | cons s ss ih =>
    show symbolsOf (consSymbol s (ofSymbols ss)) = s :: ss
    rw [symbolsOf_consSymbol, ih]

end Token
end PlainSearch
