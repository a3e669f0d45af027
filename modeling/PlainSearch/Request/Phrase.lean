/-
  Request/Phrase.lean --- quoted phrases, kept whole.

  WHAT THIS FILE IS FOR.  Search terms may hold phrases: a double quote, one or
  more characters other than the double quote, and a double quote.  Everything
  done to search terms leaves phrases as they are, so the text is first taken
  apart into `Symbol`s: a phrase is one symbol, and so is each character outside
  the phrases.

  Phrases are found from left to right and do not overlap.  A quote with another
  one right behind it opens nothing, and neither does a quote that is never
  closed; both are characters like any other.
-/
import PlainSearch.Text.Word

set_option autoImplicit false

namespace PlainSearch

/-- A character of the search terms outside the phrases, or a whole phrase. -/
inductive Symbol where
  | char (c : Char)
  /-- a phrase, by what stands between its quotes -/
  | phrase (body : Text)
  deriving DecidableEq, Repr

namespace Symbol

/-- The text of a symbol. -/
def text : Symbol → Text
  | .char c => [c]
  | .phrase b => '"' :: b ++ ['"']

/-- The text of several symbols. -/
def textOf (ss : List Symbol) : Text := ss.flatMap text

/-- A text without phrases, character by character. -/
def ofPlain (t : Text) : List Symbol := t.map .char

/-- The symbols of a text that follows `opened`: the characters since a quote that may open a
phrase, if there is one. -/
def scan : Option Text → Text → List Symbol
  | none, [] => []
  | none, c :: t => if c = '"' then scan (some []) t else .char c :: scan none t
  | some b, [] => .char '"' :: ofPlain b
  | some b, c :: t =>
    if c = '"' then
      if b = [] then .char '"' :: scan (some []) t else .phrase b :: scan none t
    else scan (some (b ++ [c])) t

/-- The symbols of a text. -/
def ofText (t : Text) : List Symbol := scan none t

@[simp] theorem textOf_nil : textOf [] = [] := rfl

@[simp] theorem textOf_cons (s : Symbol) (ss : List Symbol) :
    textOf (s :: ss) = text s ++ textOf ss := rfl

@[simp] theorem textOf_append (ss ss' : List Symbol) :
    textOf (ss ++ ss') = textOf ss ++ textOf ss' := List.flatMap_append

@[simp] theorem textOf_ofPlain (t : Text) : textOf (ofPlain t) = t := by
  induction t with
  | nil => rfl
  | cons c t ih =>
    have hcons : ofPlain (c :: t) = .char c :: ofPlain t := rfl
    rw [hcons, textOf_cons, ih]
    rfl

theorem textOf_scan (o : Option Text) (t : Text) :
    textOf (scan o t) = (match o with | none => [] | some b => '"' :: b) ++ t := by
  induction t generalizing o with
  | nil =>
    cases o with
    | none => rfl
    | some b => simp [scan, text]
  | cons c t ih =>
    cases o with
    | none =>
      by_cases h : c = '"'
      · simp [scan, h, ih]
      · simp [scan, h, ih, text]
    | some b =>
      by_cases h : c = '"'
      · by_cases hb : b = []
        · simp [scan, h, hb, ih, text]
        · simp [scan, h, hb, ih, text]
      · simp [scan, h, ih]

/-- Taking a text apart loses nothing. -/
theorem textOf_ofText (t : Text) : textOf (ofText t) = t := by
  simpa [ofText] using textOf_scan none t

/-- The phrases among symbols, with their quotes. -/
def phrases (ss : List Symbol) : List Text :=
  ss.filterMap fun
    | .phrase b => some (text (.phrase b))
    | .char _ => none

/-- A symbol continues a word: a word character, or a phrase, which never breaks one. -/
def isWordlike : Symbol → Bool
  | .char c => Text.isWordChar c
  | .phrase _ => true

end Symbol
end PlainSearch
