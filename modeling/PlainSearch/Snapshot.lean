/-
  Snapshot.lean --- a database written down as a document.

  WHAT THIS FILE IS FOR.  The program works on what a database engine answers.  A
  snapshot is a JSON document that writes such answers down: the objects of a
  database in the order in which they were created, and what a search finds in it.

      { "objects": [
          { "table": "books", "columns": ["title"], "rows": [["Emma"]] },
          { "fts": "books_fts", "columns": ["title"] },
          { "view": "shelf", "of": "books", "columns": ["title"] },
          { "index": "by_title", "of": "books", "columns": ["title"] } ],
        "found": { "columns": ["rowid", "title"], "rows": [[1, "Emma"]] } }

  Rows may be left out, and so may what a search finds; it then finds nothing.
  Instead of columns and rows, `found` may hold the reason of a `failure`.
-/
import PlainSearch.Database.Change
import PlainSearch.Json.Reader
import PlainSearch.Store

set_option autoImplicit false

namespace PlainSearch

/-- A database, and what a search finds in it. -/
structure Snapshot where
  database : Database := {}
  /-- what a search finds -/
  found : Store.Reply := .empty
  deriving Repr

namespace Snapshot

/-- A text. -/
def text? : Datum → Option Text
  | .text t => some t
  | _ => none

/-- A list of things of one kind. -/
def list? {α : Type} (item? : Datum → Option α) : Datum → Option (List α)
  | .list xs => xs.mapM item?
  | _ => none

/-- A field that is a list, without items if it is left out. -/
def items? {α : Type} (item? : Datum → Option α) (fs : Fields) (name : Text) : Option (List α) :=
  match fs.get? name with
  | none => some []
  | some v => list? item? v

/-- A row, as a table keeps it. -/
def row? : Datum → Option Database.Row := list? fun v => some (Database.stored v)

/-- The object that a record makes. -/
def object? : Datum → Option Database.Object
  | .record fs => do
    let columns ← items? text? fs "columns".toList
    let rows ← items? row? fs "rows".toList
    let source := (Fields.get? fs "of".toList).bind text?
    match fs with
    | (kind, .text name) :: _ =>
      if kind = "table".toList then some (.table name columns rows)
      else if kind = "fts".toList then some (.fullText name columns rows)
      else if kind = "view".toList then source.map fun s => .view name s columns
      else if kind = "index".toList then source.map fun s => .index name s columns
      else none
    | _ => none
  | _ => none

/-- What a search finds. -/
def reply? : Datum → Option Store.Reply
  | .record fs =>
    match Fields.get? fs "failure".toList with
    | some reason => (text? reason).map .failure
    | none => do
      let columns ← items? text? fs "columns".toList
      let rows ← items? row? fs "rows".toList
      some (.rows columns rows)
  | _ => none

/-- The snapshot that a value stands for, if its objects can be created one after the other. -/
def ofDatum? : Datum → Option Snapshot
  | .record fs => do
    let objects ← items? object? fs "objects".toList
    let database ← (Database.ofObjects objects).toOption
    let found ← match Fields.get? fs "found".toList with
      | none => some .empty
      | some v => reply? v
    some ⟨database, found⟩
  | _ => none

/-- The snapshot that a document stands for; an empty document is an empty database. -/
def read? (t : Text) : Option Snapshot :=
  if t = [] then some {} else (Json.read? t).bind ofDatum?

end Snapshot
end PlainSearch
