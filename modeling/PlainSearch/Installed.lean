/-
  Installed.lean --- what the program is installed with.

  WHAT THIS FILE IS FOR.  The program is written over a library that makes engines of
  URLs, over a database engine, and over a reader of options.  Here are the ones it runs
  with:

      engines      are made as `Location.Engine.ofUrl` says, and find in a file what is
                   there; a database in memory is empty;
      databases    are lists of objects, which are read as `Database.reader` says;
      an option    is an integer if its text would pass as one among the settings.

  Of the program only the outer layer depends on these.  What the theory relies on is said
  as hypotheses; that these meet it is proved of them, and they are what its instances are
  instances of.
-/
import PlainSearch.CommandLine.Surroundings
import PlainSearch.Database.Engine

set_option autoImplicit false

namespace PlainSearch.Installed

/-- What an engine finds where there is a database. -/
def contents (db : Database) : Contents := .database db.reader

/-- What engines find, given what there is in files. -/
def reach (files : Path → Bool → Contents) : Reach := fun e =>
  match e.opening with
  | .target .memory => contents {}
  | .target (.file p made) => files p made
  | .refused e => .refused e
  | .impossible f => .impossible f

/-- The library, given what there is in files. -/
def library (files : Path → Bool → Contents) : Library where
  make := Location.Engine.ofUrl
  find := reach files

/-- The store of a database, wherever it is. -/
def store (url : Text) (db : Database) : Store where
  url := url
  library := { make := Location.Engine.ofUrl, find := fun _ => contents db }

/-- The integer that the text of an option is taken for. -/
def integer? (t : Text) : Option Int := (Integer.ofSetting t).toOption

/-- Surroundings with what is installed in them. -/
def surroundings (environment : Location.Environment) (homes : Path.Homes)
    (presence : Path → CommandLine.Presence) (files : Path → Bool → Contents) :
    CommandLine.Surroundings where
  environment := environment
  homes := homes
  presence := presence
  integer? := integer?
  library := library files

end PlainSearch.Installed
