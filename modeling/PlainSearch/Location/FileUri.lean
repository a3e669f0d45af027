/-
  Location/FileUri.lean --- names of files with options.

  WHAT THIS FILE IS FOR.  An engine may be told to take the name of a file for a URI:

      file:path?key=value&key=value#comment
      file://localhost/path?key=value

  Path, keys and values are written with percent triples; a null character ends what
  it stands in.  Three options count: `mode` says whether the file is made if it is
  not there, or that there is none, `cache` and `vfs` have to have values that are
  known.  A name that does not begin with `file:` is a name like any other.
-/
import PlainSearch.Database.Refusal
import PlainSearch.Location.Path
import PlainSearch.Text.Percent

set_option autoImplicit false

namespace PlainSearch.Location

/-- What an engine is to open. -/
inductive Target where
  | memory
  /-- a file, which is made if it is not there, or has to be there -/
  | file (path : Path) (made : Bool)
  deriving DecidableEq, Repr

/-- The name of a database in memory. -/
def memoryName : Text := ":memory:".toList

/-- What a name stands for that is not taken for a URI. -/
def Target.named (name : Text) (made : Bool) : Target :=
  if name = [] ∨ name = memoryName then .memory else .file (Path.ofText name) made

namespace FileUri

/-- A part of a URI. -/
def part (t : Text) : Text := (Percent.decode t).takeWhile (· ≠ '\x00')

/-- The options of a URI in their order; those without a key are passed over. -/
def options (query : Text) : List (Text × Text) :=
  ((Text.splitOn '&' query).map fun t =>
    (part (t.takeWhile (· ≠ '=')), part ((t.dropWhile (· ≠ '=')).drop 1))).filter
      fun o => o.1 ≠ []

/-- The path of a URI behind its scheme; an authority has to be this machine. -/
def path (t : Text) : Except EngineError Text :=
  match Text.stripPrefix? "//".toList t with
  | none => .ok (part t)
  | some r =>
    let authority := r.takeWhile (· ≠ '/')
    if authority = [] ∨ authority = "localhost".toList then .ok (part (r.dropWhile (· ≠ '/')))
    else .error (.foreignMachine authority)

/-- How a file is opened, once an option is taken into account. -/
def applyOption (opened : Bool × Bool) (o : Text × Text) : Except EngineError (Bool × Bool) :=
  let (key, value) := o
  if key = "mode".toList then
    if value = "memory".toList then .ok (true, true)
    else if value = "rwc".toList then .ok (false, true)
    else if value = "ro".toList ∨ value = "rw".toList then .ok (false, false)
    else .error (.noSuchOption "access mode".toList value)
  else if key = "cache".toList then
    if value = "shared".toList ∨ value = "private".toList then .ok opened
    else .error (.noSuchOption "cache mode".toList value)
  else .ok opened

/-- The file systems that are known, of which the last one is memory. -/
def knownSystems : List Text :=
  ["unix", "unix-none", "unix-dotfile", "unix-excl", "memdb"].map String.toList

/-- What a name stands for that is taken for a URI. -/
def target (name : Text) : Except EngineError Target :=
  match Text.stripPrefix? "file:".toList name with
  | none => .ok (Target.named name true)
  | some t => do
    let t := t.takeWhile (· ≠ '#')
    let path ← path (t.takeWhile (· ≠ '?'))
    let options := options ((t.dropWhile (· ≠ '?')).drop 1)
    let (inMemory, made) ← options.foldlM applyOption (false, true)
    let system := ((options.reverse.find? fun o => o.1 = "vfs".toList).map (·.2)).getD
      "unix".toList
    if !knownSystems.contains system then .error (.noSuchOption "vfs".toList system)
    else if inMemory || system = "memdb".toList then .ok .memory
    else .ok (Target.named path made)

end FileUri
end PlainSearch.Location
