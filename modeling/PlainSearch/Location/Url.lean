/-
  Location/Url.lean --- where a database is.

  WHAT THIS FILE IS FOR.  A database is named by a URL; that of a database in a file
  is `sqlite:///` and the path of the file, up to a question mark.  The file named by
  nothing, or by the text `:memory:`, is a database in memory.

  Users may give the bare path of a file instead; `resolve` makes a URL of it.  What
  they do not give is taken from the environment.
-/
import PlainSearch.Location.Address
import PlainSearch.Location.FileUri

set_option autoImplicit false

namespace PlainSearch.Location

/-- What the URL of a database in a file begins with. -/
def filePrefix : Text := "sqlite:///".toList

/-- The environment variable that names a database. -/
def databaseVariable : Text := "NLFTS_DATABASE".toList

/-- The values of environment variables. -/
abbrev Environment : Type := Text → Option Text

/-- A value that is given and not empty. -/
def given? : Option Text → Option Text
  | some [] => none
  | o => o

/-- The URL of a database that a user names, or that the environment names in its place; nothing
if neither does. -/
def resolve (env : Environment) (homes : Path.Homes) (named : Option Text) :
    Except Fault (Option Text) :=
  match (given? named).or (given? (env databaseVariable)) with
  | none => .ok none
  | some t =>
    if Text.occursIn Address.separator t then .ok (some t)
    else if t = memoryName then .ok (some (filePrefix ++ memoryName))
    else ((Path.ofText t).expandHome homes).map fun p => some (filePrefix ++ p.text)

/-- The file that the part of a URL behind the slash names, if it names one. -/
def fileNamed? (t : Text) : Option Path :=
  let name := t.takeWhile (· ≠ '?')
  if name = [] ∨ name = memoryName then none else some (Path.ofText name)

/-- The file behind the URL of a database in a file. -/
def file? (url : Text) : Option Path :=
  match Text.stripPrefix? filePrefix url with
  | none => none
  | some rest => fileNamed? rest

end PlainSearch.Location
