/-
  CommandLine/Command.lean --- commands and what they take.

  WHAT THIS FILE IS FOR.  Behind the options stands the name of a command, and
  behind it what the command takes: the database for `schema`, the database and the
  request for `ask` and `translate`, nothing for `version`.  All of it may be left
  out.  A command has no options of its own, so an argument that begins with a
  hyphen is taken only behind `--`.

  A request alone may stand where the database is expected, if the environment
  names the database.
-/
import PlainSearch.CommandLine.Options
import PlainSearch.Location.Url
import PlainSearch.Text.Blank

set_option autoImplicit false

namespace PlainSearch.CommandLine

/-- The commands. -/
inductive CommandName where
  | version
  | schema
  | ask
  | translate
  deriving DecidableEq, Repr

namespace CommandName

/-- The name of a command in a call. -/
def text : CommandName → Text
  | .version => "version".toList
  | .schema => "schema".toList
  | .ask => "ask".toList
  | .translate => "translate".toList

/-- Every command. -/
def all : List CommandName := [.version, .schema, .ask, .translate]

/-- The command of a name. -/
def ofText? (t : Text) : Option CommandName := all.find? fun c => c.text = t

end CommandName

/-- A command with what it is given. -/
inductive Command where
  | version
  | schema (database : Option Text)
  | ask (database query : Option Text)
  | translate (database query : Option Text)
  deriving DecidableEq, Repr

namespace Command

/-- The positional arguments among the arguments of a command; nothing if an option is among
them. -/
def positional? : List Text → Option (List Text)
  | [] => some []
  | arg :: args =>
    if arg = ['-', '-'] then some args
    else if Options.isOption arg then none
    else (positional? args).map (arg :: ·)

/-- A command with its arguments; nothing if they are not what it takes. -/
def read? (name : CommandName) (args : List Text) : Option Command :=
  match name, positional? args with
  | .version, some [] => some .version
  | .schema, some [] => some (.schema none)
  | .schema, some [d] => some (.schema (some d))
  | .ask, some [] => some (.ask none none)
  | .ask, some [d] => some (.ask (some d) none)
  | .ask, some [d, q] => some (.ask (some d) (some q))
  | .translate, some [] => some (.translate none none)
  | .translate, some [d] => some (.translate (some d) none)
  | .translate, some [d, q] => some (.translate (some d) (some q))
  | _, _ => none

/-- What a command takes that is given in its two places: a lone argument is the request if the
environment names the database. -/
def places (env : Location.Environment) (database query : Option Text) :
    Option Text × Option Text :=
  match database, query, Location.given? (env Location.databaseVariable) with
  | some d, none, some _ => (none, some d)
  | d, q, _ => (d, q)

/-- A request that is given and says something. -/
def spoken? : Option Text → Option Text
  | some q => if Text.trim q = [] then none else some q
  | none => none

end Command
end PlainSearch.CommandLine
