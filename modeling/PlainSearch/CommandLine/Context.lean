/-
  CommandLine/Context.lean --- the one store that a call holds open.

  WHAT THIS FILE IS FOR.  A command works on a store, which it opens and closes.  A
  context remembers every connection it has handed out, oldest first, and which of
  them it holds.  Opening a store first makes sure that there is a database to
  open: it must be named, and if it is named as a file, the file must be there.
  Only then is the store that was held closed, so an opening that is refused
  changes nothing (`openStore_of_error`).
-/
import PlainSearch.CommandLine.Surroundings

set_option autoImplicit false

namespace PlainSearch.CommandLine

/-- Why a call cannot be carried out. -/
inductive Refusal where
  | missingQuery
  | missingDatabase
  | fileNotFound (file : Path)
  deriving DecidableEq, Repr

/-- What a refusal says. -/
def Refusal.message : Refusal → Text
  | .missingQuery => "Missing query: pass the free-text request to translate".toList
  | .missingDatabase => "Missing database: pass a path or set NLFTS_DATABASE".toList
  | .fileNotFound p => "Database file not found: ".toList ++ p.text

/-- Why a store is not opened. -/
inductive Obstacle where
  | refused (r : Refusal)
  | failed (f : Fault)
  deriving Repr

/-- The URL of the database that a call names, or its environment; refused unless there is
something to open. -/
def locate (s : Surroundings) (database : Option Text) : Except Obstacle Text :=
  match Location.resolve s.environment s.homes database with
  | .error f => .error (.failed f)
  | .ok none => .error (.refused .missingDatabase)
  | .ok (some url) =>
    match Location.file? url with
    | some p =>
      match s.presence p with
      | .file => .ok url
      | .nothing => .error (.refused (.fileNotFound p))
      | .untold e => .error (.failed (.lookup e p.text))
    | none => .ok url

/-- The connections of a call. -/
structure Context where
  /-- every connection handed out, oldest first -/
  handedOut : List Connection := []
  held : Option Nat := none
  deriving DecidableEq, Repr

namespace Context

/-- Changes the connection at a place. -/
def modify (c : Context) (i : Nat) (f : Connection → Connection) : Context :=
  { c with handedOut := c.handedOut.modify i f }

/-- Closes the connection that is held. -/
def close (c : Context) : Context :=
  match c.held with
  | none => c
  | some i => { c.modify i Connection.close with held := none }

/-- Uses the connection that is held. -/
def use (f : Connection → Connection) (c : Context) : Context :=
  match c.held with
  | none => c
  | some i => c.modify i f

/-- Opens the store that a call names. -/
def openStore (s : Surroundings) (database : Option Text) (c : Context) :
    Except Obstacle Store × Context :=
  match locate s database with
  | .error o => (.error o, c)
  | .ok url =>
    let closed := c.close
    (.ok (s.store url),
      { handedOut := closed.handedOut ++ [{ url := url }],
        held := some closed.handedOut.length })

theorem held_close (c : Context) : c.close.held = none := by
  unfold close
  split <;> simp_all

/-- Closing twice is closing once. -/
theorem close_close (c : Context) : c.close.close = c.close := by
  have h := held_close c
  generalize c.close = d at h
  simp [close, h]

/-- An opening that does not succeed changes nothing. -/
theorem openStore_of_error {s : Surroundings} {database : Option Text} {c : Context}
    {o : Obstacle} (h : locate s database = .error o) :
    c.openStore s database = (.error o, c) := by
  simp [openStore, h]

end Context
end PlainSearch.CommandLine
