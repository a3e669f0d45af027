/-
  Validation/Models.lean --- the shapes that values are checked against, and back.

  WHAT THIS FILE IS FOR.  Each type that comes in from outside has a check, which
  makes one of a value, and a `toDatum`, which makes the value that holds all its
  fields.  Fields that a check does not know are passed over, and fields with a
  default may be missing.
-/
import PlainSearch.Search

set_option autoImplicit false

namespace PlainSearch

open Checked

/-! ## Schemas -/

/-- The name of a column type. -/
def ColumnType.check (v : Datum) : Checked ColumnType :=
  match (Datum.checkText v).toOption.bind ColumnType.ofName? with
  | some c => .ok c
  | none => defect .notColumnType

/-- A column. -/
def Column.check : Datum → Checked Column :=
  Datum.checkModel "ColumnSchema".toList fun fs =>
    (both (required fs "name".toList Datum.checkText)
      (optional fs "type".toList .text ColumnType.check)).map fun p => ⟨p.1, p.2⟩

/-- A column as a value. -/
def Column.toDatum (c : Column) : Datum :=
  .record [("name".toList, .text c.name), ("type".toList, .text c.type.name)]

/-- A table. -/
def Table.check : Datum → Checked Table :=
  Datum.checkModel "TableSchema".toList fun fs =>
    (both (required fs "name".toList Datum.checkText)
      (optional fs "columns".toList [] (Datum.checkFixedList Column.check))).map
        fun p => ⟨p.1, p.2⟩

/-- A table as a value. -/
def Table.toDatum (t : Table) : Datum :=
  .record [("name".toList, .text t.name), ("columns".toList, .list (t.columns.map Column.toDatum))]

/-- A catalog. -/
def Catalog.check : Datum → Checked Catalog :=
  Datum.checkModel "Catalog".toList fun fs =>
    (optional fs "tables".toList [] (Datum.checkFixedList Table.check)).map fun ts => ⟨ts⟩

/-- A catalog as a value. -/
def Catalog.toDatum (c : Catalog) : Datum :=
  .record [("tables".toList, .list (c.tables.map Table.toDatum))]

/-! ## Plans and reports -/

/-- A plan. -/
def Plan.check : Datum → Checked Plan :=
  Datum.checkModel "QueryPlan".toList fun fs =>
    (both (required fs "target".toList Table.check)
      (both (required fs "match_expression".toList Datum.checkText)
        (both (optional fs "filters".toList [] (Datum.checkFixedList Datum.checkText))
          (both (optional fs "order_clause".toList none (Datum.checkOptional Datum.checkText))
            (optional fs "limit".toList none (Datum.checkOptional Datum.checkInteger)))))).map
              fun p => ⟨p.1, p.2.1, p.2.2.1, p.2.2.2.1, p.2.2.2.2⟩

/-- A plan as a value. -/
def Plan.toDatum (p : Plan) : Datum :=
  .record [("target".toList, p.target.toDatum), ("match_expression".toList, .text p.expression),
    ("filters".toList, .list (p.filters.map .text)),
    ("order_clause".toList, SearchError.optional p.order),
    ("limit".toList, match p.limit with | some n => .int n | none => .null)]

/-- A report. -/
def Report.check : Datum → Checked Report :=
  Datum.checkModel "QueryReport".toList fun fs =>
    (both (required fs "query".toList Datum.checkText)
      (both (required fs "sql".toList Datum.checkText)
        (both (required fs "count".toList Datum.checkInteger)
          (optional fs "rows".toList [] (Datum.checkList Datum.checkRecord))))).map
            fun p => ⟨p.1, p.2.1, p.2.2.1, p.2.2.2⟩

end PlainSearch
