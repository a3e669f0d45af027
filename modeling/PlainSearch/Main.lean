/-
  Main.lean --- the program.

  WHAT THIS FILE IS FOR.  The outer layer reads the arguments, the environment and
  the files that a call may be about, hands them to `CommandLine.call`, and writes
  what it gives.  It decides nothing.  A file is taken as a snapshot of a database;
  one that is none is foreign to the engine.
-/
import PlainSearch.CommandLine.Call
import PlainSearch.Installed
import PlainSearch.Snapshot

set_option autoImplicit false

namespace PlainSearch.Main

/-- The values of the environment variables that a call may look at. -/
def givenVariables : IO (List (Text × Text)) := do
  let names :=
    ["HOME".toList, Location.databaseVariable, Settings.suffixVariable,
      Settings.sampleSizeVariable]
  let mut found := []
  for name in names do
    match ← IO.getEnv (String.ofList name) with
    | some value => found := (name, value.toList) :: found
    | none => pure ()
  return found

/-! ## Files -/

/-- The files that may be looked at behind a URL: the one that has to be there, and the one that
the engine opens. -/
def filesOf (url : Text) : List Path :=
  let opened : List Path :=
    match Location.Engine.ofUrl url with
    | .ok ⟨_, .target (.file p _)⟩ => [p]
    | _ => []
  (Location.file? url).toList ++ opened

/-- The files that a call with the given arguments may look at. -/
def filesToRead (env : Location.Environment) (homes : Path.Homes) (args : List Text) :
    List Path :=
  let url? : Option Text := do
    let (_, words) ← CommandLine.Options.read? {} args
    let name ← CommandLine.CommandName.ofText? (← words.head?)
    let command ← CommandLine.Command.read? name (words.drop 1)
    (Location.resolve env homes (command.database env)).toOption.join
  (url?.map filesOf).getD []

/-- What there is at a path. -/
inductive Place where
  | file (t : Option Text)
  /-- no file, but a directory to make it in -/
  | free
  /-- nothing that can be opened -/
  | closed
  | untold (e : SystemError)

/-- What the system says of a path that it does not find, if it is more than that nothing is
there. -/
def systemError? : IO.Error → Option SystemError
  | .permissionDenied _ number reason => some ⟨number.toNat, reason.toList⟩
  | .invalidArgument _ number reason => some ⟨number.toNat, reason.toList⟩
  | .hardwareFault number reason => some ⟨number.toNat, reason.toList⟩
  | .resourceExhausted _ number reason => some ⟨number.toNat, reason.toList⟩
  | _ => none

/-- The text of a file; bytes that are no text count as a foreign text. -/
def textOf (path : String) : IO (Option Text) := do
  try
    let bytes ← IO.FS.readBinFile path
    return some (((String.fromUTF8? bytes).map String.toList).getD ['?'])
  catch _ => return none

/-- What there is at a path. -/
def placeAt (p : Path) : IO Place := do
  let path := String.ofList p.text
  try
    let found ← IO.FS.realPath path
    if (← found.metadata).type == .file then return .file (← textOf path)
    return .closed
  catch e =>
    match systemError? e with
    | some e => return .untold e
    | none =>
      try
        discard <| IO.FS.realPath (String.ofList p.parent.text)
        return .free
      catch _ => return .closed

/-- What an engine finds in a text. -/
def contents (t : Text) : Contents :=
  match Snapshot.read? t with
  | some s => Installed.contents s.database
  | none => .foreign

/-- What an engine finds at a place. -/
def opened (made : Bool) : Place → Contents
  | .file (some t) => contents t
  | .free => if made then Installed.contents {} else .refused .cannotOpen
  | _ => .refused .cannotOpen

/-- What the engine gives for a search at a place. -/
def found : Place → Store.Reply
  | .file (some t) => ((Snapshot.read? t).map Snapshot.found).getD .empty
  | _ => .empty

/-- What there is at a path, of the paths that were looked at. -/
def lookUp (places : List (Path × Place)) (p : Path) : Place :=
  ((places.find? fun q => q.1 = p).map (·.2)).getD .closed

/-! ## Calls -/

/-- What a call finds around it, in the directory `here`. -/
def surroundings (values : List (Text × Text)) (homes : Path.Homes) (here : Path)
    (places : List (Path × Place)) : CommandLine.Surroundings :=
  let presence (p : Path) : CommandLine.Presence :=
    match lookUp places p with
    | .file _ => .file
    | .untold e => .untold e
    | _ => .nothing
  Installed.surroundings (fun name => (values.find? fun v => v.1 = name).map (·.2)) homes presence
    fun p made => opened made (lookUp places (Path.settled here p))

/-- Runs a call. -/
def run (args : List String) : IO UInt32 := do
  let values ← givenVariables
  let lookup (name : Text) : Option Text := (values.find? fun v => v.1 = name).map (·.2)
  let homes : Path.Homes := ⟨lookup "HOME".toList, fun _ => none⟩
  let texts := args.map String.toList
  let here := Path.ofText (toString (← IO.currentDir)).toList
  let paths := filesToRead lookup homes texts
  let places ← (paths ++ paths.map (Path.settled here)).mapM fun p => do return (p, ← placeAt p)
  let reply := (places.getLast?.map fun p => found p.2).getD .empty
  let outcome := CommandLine.call (surroundings values homes here places) (fun _ => reply) texts
  (← IO.getStdout).putStr (String.ofList outcome.stdout)
  (← IO.getStderr).putStr (String.ofList outcome.stderr)
  match outcome.escaped with
  | some f => (← IO.getStderr).putStrLn (String.ofList f.message)
  | none => pure ()
  return UInt32.ofNat outcome.exitCode

end PlainSearch.Main

/-- The program. -/
def main (args : List String) : IO UInt32 := PlainSearch.Main.run args
