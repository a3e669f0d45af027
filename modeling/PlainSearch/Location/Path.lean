/-
  Location/Path.lean --- paths of files.

  WHAT THIS FILE IS FOR.  A database may be named by the path of its file.  A path
  is kept in a normal form: a root and the names on the way, without empty names
  and without the name `.`, which lead nowhere.  The name `..` stays, because what
  it means depends on the files.  A path that begins with exactly two slashes keeps
  both; one that begins with three or more keeps one.

  A first name that begins with a tilde stands for a home directory.
-/
import PlainSearch.Fault

set_option autoImplicit false

namespace PlainSearch

/-- Where a path begins. -/
inductive Root where
  | current
  | top
  /-- at the top, written with two slashes -/
  | doubleTop
  deriving DecidableEq, Repr

/-- The slashes that a root is written with. -/
def Root.text : Root → Text
  | .current => []
  | .top => ['/']
  | .doubleTop => ['/', '/']

/-- The path of a file. -/
structure Path where
  root : Root
  names : List Text
  deriving DecidableEq, Repr

namespace Path

/-- A name that leads somewhere. -/
def isName (n : Text) : Bool := n ≠ [] && n ≠ ['.']

/-- The root of a written path. -/
def rootOf : Text → Root
  | '/' :: '/' :: '/' :: _ => .top
  | '/' :: '/' :: _ => .doubleTop
  | '/' :: _ => .top
  | _ => .current

/-- The path that a text stands for. -/
def ofText (t : Text) : Path := ⟨rootOf t, (Text.splitOn '/' t).filter isName⟩

/-- A path as text; the path without root and names is a point. -/
def text (p : Path) : Text :=
  match p.root.text ++ Text.joinWith ['/'] p.names with
  | [] => ['.']
  | t => t

/-- The directory that a path leads through last. -/
def parent (p : Path) : Path := ⟨p.root, p.names.dropLast⟩

/-- Names without those that lead back; one that leads back at the top leads nowhere. -/
def straightened (names : List Text) : List Text :=
  names.foldl (fun done n => if n = ['.', '.'] then done.dropLast else done ++ [n]) []

/-- A path from the top, for a path that is taken in the directory `here`; names that lead back
take away the name before them, whatever that is the name of. -/
def settled (here p : Path) : Path :=
  match p.root with
  | .current => ⟨here.root, straightened (here.names ++ p.names)⟩
  | root => ⟨root, straightened p.names⟩

/-! ## Home directories -/

/-- Where home directories are. -/
structure Homes where
  own : Option Text
  ofUser : Text → Option Text

/-- The home directory that a name with a tilde stands for, without slashes at its end. -/
def homeOf? (homes : Homes) (name : Text) : Option Text :=
  let home := match name with
    | ['~'] => homes.own
    | _ :: user => homes.ofUser user
    | [] => none
  home.map fun h =>
    match (h.reverse.dropWhile (· = '/')).reverse with
    | [] => ['/']
    | t => t

/-- A path with the home directory in place of a tilde. -/
def expandHome (homes : Homes) (p : Path) : Except Fault Path :=
  match p.root, p.names with
  | .current, ('~' :: user) :: rest =>
    match homeOf? homes ('~' :: user) with
    | none => .error .homeUnknown
    | some ('~' :: _) => .error .homeUnknown
    | some home =>
      let h := ofText home
      .ok ⟨h.root, h.names ++ rest⟩
  | _, _ => .ok p

end Path
end PlainSearch
