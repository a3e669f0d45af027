/-
  CommandLine/Surroundings.lean --- what the program finds around it.

  WHAT THIS FILE IS FOR.  A call of the program reads three things outside: the
  environment, the places of home directories, and files.  Of a file it asks
  whether it is there, which the system may not tell, and what a database engine
  finds when it opens it.  The two need not go together: the first looks for the path
  as it is written, the second for what is left of it when the URL is read.

  Two things that a call is carried out with are not the program's own: the reader of
  options that are integers, and the library that makes engines.  Nothing is known of
  them here; which ones are installed is another matter (`Installed`).
-/
import PlainSearch.Location.Url
import PlainSearch.Store

set_option autoImplicit false

namespace PlainSearch.CommandLine

/-- What there is at a path. -/
inductive Presence where
  | file
  | nothing
  | untold (e : SystemError)
  deriving DecidableEq, Repr

/-- What a call of the program finds around it. -/
structure Surroundings where
  environment : Location.Environment
  homes : Path.Homes
  /-- what a path leads to, directories not counted -/
  presence : Path → Presence
  /-- the integer that the text of an option is taken for, if it is taken for one -/
  integer? : Text → Option Int
  library : Library

namespace Surroundings

/-- The database behind a URL. -/
def store (s : Surroundings) (url : Text) : Store := { url := url, library := s.library }

end Surroundings
end PlainSearch.CommandLine
