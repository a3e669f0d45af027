/-
  Proofs/Database/Reader.lean --- what is relied on of a database engine.

  WHAT THIS FILE IS FOR.  The theory of discovery is about any engine that answers for what
  is in a database.  What that means is said here once, in the words of a `State`: its
  tables in the order in which they were created, and under each name the columns in
  the order in which they were declared, with what they hold, row by row.

      Reader.Lists             tables are listed by pattern, in their order;

      Reader.Reflects          besides, columns are listed in their order, none for what
                               is not there, and a column gives the values in it that
                               are not missing, in the order of the rows.  An engine may
                               refuse to give the values of a column for any reason;

      Reader.PassesOverBreaks  a name that a statement writes bare is read without the
                               line break at its end.

  The second speaks of names that statements show, and the third of those they do not.

  THE INSTANCE.  A database of objects, read as `Database.reader` reads it, meets all three
  (`Database.reader_reflects`, `Database.reader_passesOverBreaks`), with its rows in the
  order in which the engine comes to them.  The one thing that it takes is that no table
  has two columns of one name, which every database that comes about keeps to.
-/
import PlainSearch.Proofs.Database.Change
import PlainSearch.Proofs.Sql.Identifier
import PlainSearch.Proofs.Sql.Like

set_option autoImplicit false

namespace PlainSearch

/-! ## What is in a database -/

/-- What is in a database, as it is found by name. -/
structure Database.State where
  /-- the names of the tables, in the order in which they were created -/
  tables : List Text
  /-- the columns of the table or view of a name, with what they hold; none if there is neither -/
  columns : Text → List (Text × List Datum)

namespace Reader

open Database (State)

/-- The engine lists, of these tables, those whose names have a pattern. -/
def Lists (db : Reader) (tables : List Text) : Prop :=
  ∀ pattern, db.tablesLike pattern = .ok (tables.filter (Sql.Like.holds pattern))

/-- What the engine answers is about what is in the database. -/
structure Reflects (db : Reader) (state : State) : Prop where
  /-- tables are listed in their order -/
  lists : db.Lists state.tables
  /-- so are columns, unless no value of any column is given either -/
  columns : ∀ table, Sql.IsShown table →
    db.columnsOf table = .ok ((state.columns table).map (·.1)) ∨
      ∀ column values, db.columnValues table column ≠ .ok values
  /-- the values given for a column are those in it that are not missing -/
  values : ∀ table, Sql.IsShown table → ∀ c ∈ state.columns table, Sql.IsShown c.1 →
    ∀ values, db.columnValues table c.1 = .ok values → values = c.2.filter Database.isPresent

/-- A name that is written bare and is no word of the language without the line break at its end
stands for what it stands for without it. -/
structure PassesOverBreaks (db : Reader) : Prop where
  columns : ∀ n names, Sql.isBare n = true → Sql.reservedWords.contains (Sql.stem n) = false →
    (db.columnsOf n = .ok names ↔ db.columnsOf (Sql.stem n) = .ok names)
  table : ∀ n column values, Sql.isBare n = true →
    Sql.reservedWords.contains (Sql.stem n) = false →
    (db.columnValues n column = .ok values ↔ db.columnValues (Sql.stem n) column = .ok values)
  column : ∀ table n values, Sql.isBare n = true →
    Sql.reservedWords.contains (Sql.stem n) = false →
    (db.columnValues table n = .ok values ↔ db.columnValues table (Sql.stem n) = .ok values)

/-- Of the tables that the pattern made of a suffix selects, those that end with the suffix are all
that do. -/
theorem filter_holds_endingWith (tables : List Text) (suffix : Text) :
    (tables.filter (Sql.Like.holds (Sql.Like.endingWith suffix))).filter (Text.endsWith suffix)
      = tables.filter (Text.endsWith suffix) := by
  rw [List.filter_filter]
  apply List.filter_congr
  intro name _
  cases hends : Text.endsWith suffix name with
  | true => rw [Sql.Like.holds_endingWith_of_endsWith hends, Bool.and_self]
  | false => rw [Bool.false_and]

end Reader

/-! ## A database of objects -/

namespace Database

/-- The values of a column that are present, in the order in which the engine reads them. -/
def Relation.presentIn (r : Relation) (a : Attribute) : List Datum :=
  (r.inReadingOrder a.origin a.values).filter isPresent

/-- What is in a database of objects. -/
def state (db : Database) : State where
  tables := db.tableNames
  columns name :=
    match db.relation? name with
    | .ok (some r) => r.attributes.map fun a => (a.name, r.inReadingOrder a.origin a.values)
    | _ => []

variable {db : Database} {table : Text} {r : Relation} {a : Attribute}

theorem columns_state_of_relation? (hr : db.relation? table = .ok (some r)) :
    db.state.columns table
      = r.attributes.map fun a => (a.name, r.inReadingOrder a.origin a.values) := by
  simp only [state, hr]

theorem columnsOf_eq (htable : Sql.reading .described table = .name table)
    (hr : db.relation? table = .ok (some r)) :
    db.columnsOf table = .ok (r.attributes.map (·.name)) := by
  unfold columnsOf
  rw [htable]
  dsimp only
  rw [hr]

/-- The engine gives values for a column of a table whose name it takes and that is there, if the
column can be read from what is there. -/
theorem columnValues_eq_ok_iff {column : Text} {values : List Datum} :
    db.columnValues table column = .ok values ↔
      ∃ n r, Sql.reading .source table = .name n ∧ db.relation? n = .ok (some r) ∧
        presentValues r column = .ok values := by
  constructor
  · intro h
    unfold columnValues at h
    split at h
    · cases h
    · cases h
    · next n hsource _ =>
      split at h
      · cases h
      · cases h
      · next r hr => exact ⟨n, r, hsource, hr, h⟩
    · cases h
  · rintro ⟨n, r, hsource, hr, hvalues⟩
    cases hcolumn : Sql.reading .value column with
    | refusedAt w =>
      rw [presentValues, hcolumn] at hvalues
      cases hvalues
    | name _ => simpa only [columnValues, hcolumn, hsource, hr] using hvalues
    | nothing => simpa only [columnValues, hcolumn, hsource, hr] using hvalues
    | truth _ => simpa only [columnValues, hcolumn, hsource, hr] using hvalues

/-- For a column whose name it takes, the engine answers with the values that are present. -/
theorem columnValues_eq (hsound : r.IsSound) (htable : Sql.reading .source table = .name table)
    (hr : db.relation? table = .ok (some r)) (ha : a ∈ r.attributes)
    (hname : Sql.reading .value a.name = .name a.name) :
    db.columnValues table a.name = .ok (r.presentIn a) := by
  refine columnValues_eq_ok_iff.2 ⟨table, r, htable, hr, ?_⟩
  unfold presentValues
  rw [hname]
  dsimp only
  rw [Relation.meaning_of_mem hsound ha]
  rfl

/-- A table whose name is shown is the one that the values of its columns are from. -/
theorem exists_relation?_of_columnValues (htable : Sql.IsShown table) {column : Text}
    {values : List Datum} (h : db.columnValues table column = .ok values) :
    ∃ r, (∀ place, Sql.reading place table = .name table) ∧ db.relation? table = .ok (some r) ∧
      presentValues r column = .ok values := by
  obtain ⟨n, r, hsource, hr, hvalues⟩ := columnValues_eq_ok_iff.1 h
  rcases Sql.reading_of_isShown htable with hname | hrefused
  · rw [hname] at hsource
    cases hsource
    exact ⟨r, hname, hr, hvalues⟩
  · rw [hrefused] at hsource
    cases hsource

theorem columnsOf_eq_or_columnValues_ne_ok (db : Database) (htable : Sql.IsShown table) :
    db.columnsOf table = .ok ((db.state.columns table).map (·.1)) ∨
      ∀ column values, db.columnValues table column ≠ .ok values := by
  by_cases hgiven : ∃ column values, db.columnValues table column = .ok values
  · obtain ⟨column, values, hvalues⟩ := hgiven
    obtain ⟨r, hname, hr, -⟩ := exists_relation?_of_columnValues htable hvalues
    left
    rw [columnsOf_eq (hname .described) hr, columns_state_of_relation? hr, List.map_map]
    rfl
  · right
    intro column values hvalues
    exact hgiven ⟨column, values, hvalues⟩

theorem eq_filter_isPresent_of_columnValues (hsound : db.IsSound) (htable : Sql.IsShown table)
    {c : Text × List Datum} (hc : c ∈ db.state.columns table) (hshown : Sql.IsShown c.1)
    {values : List Datum} (hvalues : db.columnValues table c.1 = .ok values) :
    values = c.2.filter isPresent := by
  obtain ⟨r, hname, hr, hpresent⟩ := exists_relation?_of_columnValues htable hvalues
  rw [columns_state_of_relation? hr] at hc
  obtain ⟨a, ha, rfl⟩ := List.mem_map.1 hc
  rcases Sql.reading_of_isShown hshown with hcolumn | hrefused
  · have hgiven := columnValues_eq (isSound_of_relation? hsound hr) (hname .source) hr ha
      (hcolumn .value)
    exact Except.ok.inj (hvalues.symm.trans hgiven)
  · unfold presentValues at hpresent
    rw [hrefused] at hpresent
    cases hpresent

theorem reader_lists (db : Database) : db.reader.Lists db.tableNames := fun _ => rfl

/-- The engine answers for what is in a database of objects. -/
theorem reader_reflects (h : db.Reachable) : db.reader.Reflects db.state where
  lists := db.reader_lists
  columns _ htable := db.columnsOf_eq_or_columnValues_ne_ok htable
  values _ htable _ hc hshown _ hvalues :=
    eq_filter_isPresent_of_columnValues h.isSound htable hc hshown hvalues

/-- The engine does not see the line break at the end of a bare name. -/
theorem reader_passesOverBreaks (db : Database) : db.reader.PassesOverBreaks where
  columns n names hbare hstem := by
    simp only [reader, columnsOf, Sql.reading_stem hbare hstem]
  table n column values hbare hstem := by
    show db.columnValues n column = _ ↔ db.columnValues (Sql.stem n) column = _
    rw [columnValues_eq_ok_iff, columnValues_eq_ok_iff, Sql.reading_stem hbare hstem]
  column table n values hbare hstem := by
    have hpresent : ∀ r, presentValues r n = presentValues r (Sql.stem n) := by
      intro r
      unfold presentValues
      rw [Sql.reading_stem hbare hstem, hbare, Sql.isBare_stem hbare hstem]
    show db.columnValues table n = _ ↔ db.columnValues table (Sql.stem n) = _
    simp only [columnValues_eq_ok_iff, hpresent]

end Database
end PlainSearch
