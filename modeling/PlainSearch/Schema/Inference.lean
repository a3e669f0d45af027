/-
  Schema/Inference.lean --- finding out what the values of a column look like.

  WHAT THIS FILE IS FOR.  The type of a column is decided on samples of its values
  as text, over all of them together:

      integer      every sample consists of digits
      float        every sample is digits, or digits, a point and digits
      timestamp    every sample begins with a date, YYYY-MM-DD
      text         otherwise, and if there are no samples

  The first type that fits every sample is taken.  Digits are those from 0 to 9.
-/
import PlainSearch.Schema.Basic
import PlainSearch.Text.Digit

set_option autoImplicit false

namespace PlainSearch

/-- A text that consists of digits; at least one is required. -/
def Text.isWhole (t : Text) : Bool := t ≠ [] && t.all Text.isAsciiDigit

/-- A text that consists of digits, or of digits, a point and digits. -/
def Text.isFraction (t : Text) : Bool :=
  match t.dropWhile Text.isAsciiDigit with
  | [] => t ≠ []
  | c :: r => c = '.' && (t.takeWhile Text.isAsciiDigit) ≠ [] && Text.isWhole r

/-- A text that begins with four digits, two digits and two digits, with hyphens between them. -/
def Text.beginsWithDate : Text → Bool
  | y₁ :: y₂ :: y₃ :: y₄ :: h₁ :: m₁ :: m₂ :: h₂ :: d₁ :: d₂ :: _ =>
    [y₁, y₂, y₃, y₄, m₁, m₂, d₁, d₂].all Text.isAsciiDigit && h₁ = '-' && h₂ = '-'
  | _ => false

namespace ColumnType

/-- A sample is of the form that a column type asks of every value. -/
def fits : ColumnType → Text → Bool
  | .integer => Text.isWhole
  | .float => Text.isFraction
  | .timestamp => Text.beginsWithDate
  | .text => fun _ => true

/-- The type of a column with these samples. -/
def infer (samples : List Text) : ColumnType :=
  if samples = [] then .text else (all.find? fun c => samples.all c.fits).getD .text

/-- The type found fits every sample. -/
theorem fits_infer {samples : List Text} : ∀ s ∈ samples, (infer samples).fits s = true := by
  intro s hs
  unfold infer
  split
  · next h => simp [h] at hs
  · cases h : all.find? fun c => samples.all c.fits with
    | none => rfl
    | some c =>
      have hc : samples.all c.fits = true := by simpa using List.find?_some h
      exact List.all_eq_true.1 hc s hs

end ColumnType
end PlainSearch
