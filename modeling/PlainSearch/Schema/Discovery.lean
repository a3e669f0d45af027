/-
  Schema/Discovery.lean --- finding the tables that can be searched.

  WHAT THIS FILE IS FOR.  The catalog of a database is discovered from its
  companions: for each full-text table whose name ends with the suffix, the table
  of the same name without the suffix, with all its columns and their types.

  A companion whose table is missing or cannot be read is skipped, with a warning,
  and takes nothing else with it.  What ends discovery altogether is a list of
  companions that cannot be read, and a sample size that cannot be handed to the
  engine.
-/
import PlainSearch.Schema.Inference
import PlainSearch.Settings
import PlainSearch.Store

set_option autoImplicit false

namespace PlainSearch.Discovery

/-- The name of the table behind a companion: the companion's name without the suffix, if it ends
with it. -/
def baseName (suffix companion : Text) : Text :=
  (Text.stripSuffix? suffix companion).getD companion

/-- The type of a column, found from at most `size` samples. -/
def inferColumn (store : Store) (size : Int) (table column : Text) : Traced ColumnType := do
  let samples ← Traced.ofExcept (store.sample table column size)
  let type := ColumnType.infer samples
  Traced.record .debug .inference
    (table ++ ['.'] ++ column ++ ": ".toList ++ Text.ofNat samples.length ++ " samples -> ".toList
      ++ type.name)
  return type

/-- The columns of a table with their types, one after the other. -/
def typedColumns (store : Store) (size : Int) (table : Text) : List Text → Traced (List Column)
  | [] => return []
  | c :: cs => do
    let type ← inferColumn store size table c
    let rest ← typedColumns store size table cs
    return ⟨c, type⟩ :: rest

/-- The columns of the table behind a companion; a missing table is reported with its
companion. -/
def baseColumns (store : Store) (table companion : Text) : Except Fault (List Text) :=
  match store.columns table with
  | .error (.search (.tableNotFound ..)) => .error (.search (.tableNotFound table (some companion)))
  | r => r

/-- The table behind a companion. -/
def table (settings : Settings) (store : Store) (companion : Text) : Traced Table := do
  let base := baseName settings.suffix companion
  let names ← Traced.ofExcept (baseColumns store base companion)
  let columns ← typedColumns store settings.sampleSize base names
  return ⟨base, columns⟩

/-- The tables behind companions, without those that cannot be read. -/
def tables (settings : Settings) (store : Store) : List Text → Traced (List Table)
  | [] => return []
  | m :: ms => do
    match ← (table settings store m).attempt with
    | .ok t =>
      let ts ← tables settings store ms
      return t :: ts
    | .error e =>
      Traced.record .warning .discovery
        ("Skipping mirror table '".toList ++ m ++ "': ".toList ++ e.message)
      tables settings store ms

/-- The catalog of a database. -/
def catalog (settings : Settings) (store : Store) : Traced Catalog := do
  let companions ← Traced.ofExcept (store.companions settings.suffix)
  let ts ← tables settings store companions
  Traced.record .info .discovery
    ("Catalog built with ".toList ++ Text.ofNat ts.length ++ " table(s): ".toList
      ++ Text.quotedList (ts.map (·.name)))
  return ⟨ts⟩

end PlainSearch.Discovery
