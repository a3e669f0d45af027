/-
  Location/Connection.lean --- a connection and the engine it holds.

  WHAT THIS FILE IS FOR.  A connection to a database makes its engine when it is
  first needed, keeps it, and disposes of it when it is closed; closed, it can be
  used again.  A connection also counts the engines made for it and not yet
  disposed of, so that one left behind shows.

  An engine that cannot be made, or whose dialect cannot be searched, is an error
  that leaves the connection as it was.  An engine that is made may still have
  nothing to open, which shows when it is used (`Contents`).

  Engines come from a library, and so does what they find.  A `Library` may make of a
  URL whatever it likes; the one that is installed is another matter (`Installed`).
-/
import PlainSearch.Database.Reader
import PlainSearch.Location.Engine

set_option autoImplicit false

namespace PlainSearch

/-- A connection to a database. -/
structure Connection where
  url : Text
  held : Option Location.Engine := none
  /-- how many engines were made for it and not disposed of -/
  live : Nat := 0
  deriving DecidableEq, Repr

/-- What an engine finds when it is used. -/
inductive Contents where
  | database (db : Reader)
  /-- a file that is no database -/
  | foreign
  | refused (e : EngineError)
  | impossible (f : OpeningFault)

/-- What is made of URLs: an engine, or why there is none. -/
abbrev Maker : Type := Text → Except Location.UrlError Location.Engine

/-- What engines find. -/
abbrev Reach : Type := Location.Engine → Contents

/-- A library that makes engines, and what its engines find. -/
structure Library where
  make : Maker
  find : Reach

namespace Connection

/-- An operation on a connection: its result, and the connection afterwards. -/
abbrev Action (α : Type) : Type := Connection → Except SearchError α × Connection

/-- No engine can be made for a URL. -/
def engineError (e : Location.UrlError) : SearchError :=
  .connection ("Failed to create database engine: ".toList ++ e.message) []

/-- The engine's dialect cannot be searched. -/
def dialectError (d : Location.Dialect) (url : Text) : SearchError :=
  .connection ("Unsupported database dialect: ".toList ++ d.name ++ ". Supported: sqlite".toList)
    [("url".toList, .text url)]

/-- The connection was tried out and failed. -/
def testError (reason : Text) : SearchError :=
  .connection ("Database connection test failed: ".toList ++ reason) []

/-- The engine of a connection, made if there is none. -/
def engine (make : Maker) : Action Location.Engine := fun c =>
  match c.held with
  | some e => (.ok e, c)
  | none =>
    match make c.url with
    | .error e => (.error (engineError e), c)
    | .ok e =>
      let made := { c with live := c.live + 1 }
      match e.dialect with
      | .sqlite => (.ok e, { made with held := some e })
      | d => (.error (dialectError d c.url), { made with live := made.live - 1 })

/-- Tries the connection out.  A file that is no database is only found out when it is read. -/
def test (make : Maker) (reach : Reach) : Action Unit := fun c =>
  match c.engine make with
  | (.error e, c) => (.error e, c)
  | (.ok e, c) =>
    match reach e with
    | .database _ => (.ok (), c)
    | .foreign => (.ok (), c)
    | .refused r => (.error (testError (r.describe none none)), c)
    | .impossible f => (.error (testError f.message), c)

/-- Disposes of the engine of a connection, if it holds one. -/
def close (c : Connection) : Connection :=
  match c.held with
  | some _ => { c with held := none, live := c.live - 1 }
  | none => c

/-- Uses a connection and closes it afterwards: tries it out, and if that succeeds runs the body
and closes the connection, whatever comes of the body. -/
def within {α : Type} (make : Maker) (reach : Reach) (body : Action α) : Action α := fun c =>
  match c.test make reach with
  | (.error e, c) => (.error e, c)
  | (.ok _, c) =>
    let (result, c) := body c
    (result, c.close)

end Connection
end PlainSearch
