/-
  Proofs/Schema/Entry.lean --- what discovery makes of one companion.

  WHAT THIS FILE IS FOR.  Behind a companion there is a table, or there is none that can
  be read.  This file says which, in two ways.

      Entry       by the engine's answers: the engine lists at least one column, and for
                  each column gives values, on the first of which the type is decided.

      Describes   by what is in the database: there is a table or a view of that name,
                  which has at least one column and each of whose columns can be sampled,
                  and the table found has these columns in the order of declaration, each
                  with the type of its first values that are present.

  The reading of a companion succeeds exactly with an `Entry` (`table_eq_ok_iff`), and
  otherwise fails with a report, except that a sample size beyond the engine's integers
  comes to light at the first column for which the engine answers
  (`table_eq_error_iff`).

  WHERE THE TWO AGREE.  A statement does not show a line break at the end of a name that
  it writes bare.  Where the names of a table and of its columns are shown, and the
  engine answers for what is in the database (`Reader.Reflects`), `Entry` and `Describes`
  are the same (`entry_iff_describes`).  A bare name that is not shown is read as its
  stem, and so are the table and the column of that name (`entry_iff_stem`,
  `typed_iff_stem`).
-/
import Mathlib.Data.List.Forall2
import PlainSearch.Proofs.Store
import PlainSearch.Schema.Discovery

set_option autoImplicit false

namespace PlainSearch

open Database (State)

/-- A column with the type of its first values. -/
def Database.State.typed (size : Nat) (c : Text × List Datum) : Column :=
  ⟨c.1, .infer (((c.2.filter Database.isPresent).take size).map Datum.shown)⟩

/-- What is in a database under a name, with every column in the order of declaration. -/
def Database.State.described (state : State) (size : Nat) (name : Text) : Table :=
  ⟨name, (state.columns name).map (State.typed size)⟩

namespace Discovery

/-! ## What there is to read -/

/-- The engine answers for a column of a table, and the first values it gives have the type. -/
def Typed (db : Reader) (size : Nat) (table name : Text) (c : Column) : Prop :=
  c.name = name ∧ ∃ values, Store.Answers db table name values ∧
    c.type = .infer ((values.take size).map Datum.shown)

/-- The engine lists the columns of a table, of which there is at least one. -/
def Listed (db : Reader) (table : Text) (names : List Text) : Prop :=
  '\x00' ∉ table ∧ db.columnsOf table = .ok names ∧ names ≠ []

/-- A table as the engine answers for it. -/
structure Entry (db : Reader) (size : Nat) (base : Text) (t : Table) : Prop where
  name_eq : t.name = base
  /-- it has the columns that the engine lists, with their types -/
  columns : ∃ names, Listed db base names ∧ List.Forall₂ (Typed db size base) names t.columns

/-- A table as it is in the database, where each of its columns can be sampled. -/
def Describes (db : Reader) (state : State) (size : Nat) (base : Text) (t : Table) : Prop :=
  state.columns base ≠ [] ∧
    (∀ c ∈ state.columns base, ∃ values, Store.Answers db base c.1 values) ∧
    t = state.described size base

/-- Statements show the name of a table and those of its columns. -/
def IsShown (state : State) (base : Text) : Prop :=
  Sql.IsShown base ∧ ∀ c ∈ state.columns base, Sql.IsShown c.1

variable {store : Store} {db : Reader} {settings : Settings}

/-! ## Columns -/

theorem fitsEngine_iff {size : Nat} :
    Database.fitsEngine size = true ↔ (size : Int) < Integer.wordBound := by
  unfold Database.fitsEngine Integer.wordBound
  rw [Bool.and_eq_true, decide_eq_true_eq, decide_eq_true_eq]
  omega

theorem inferColumn_eq_ok_iff (hopens : store.Opens db) {size : Nat} {table column : Text}
    {type : ColumnType} :
    (inferColumn store size table column).outcome = .ok type ↔
      (size : Int) < Integer.wordBound ∧ Typed db size table column ⟨column, type⟩ := by
  unfold inferColumn Typed
  rw [Traced.outcome_bind_eq_ok_iff, Traced.outcome_ofExcept]
  constructor
  · rintro ⟨samples, hsample, htype⟩
    obtain ⟨hfits, values, hvalues, rfl⟩ := (Store.sample_eq_ok_iff hopens).1 hsample
    cases htype
    exact ⟨fitsEngine_iff.1 hfits, rfl, values, hvalues, rfl⟩
  · rintro ⟨hsize, -, values, hvalues, rfl⟩
    refine ⟨_, (Store.sample_eq_ok_iff hopens).2 ⟨fitsEngine_iff.2 hsize, values, hvalues, rfl⟩, ?_⟩
    rfl

theorem inferColumn_eq_error_iff (hopens : store.Opens db) {size : Nat} {table column : Text}
    {f : Fault} (hf : ∀ e, f ≠ .search e) :
    (inferColumn store size table column).outcome = .error f ↔
      f = .limitBeyondEngine ∧ Integer.wordBound ≤ (size : Int) ∧
        ∃ values, Store.Answers db table column values := by
  unfold inferColumn
  rw [Traced.outcome_bind_eq_error_iff, Traced.outcome_ofExcept, ← Int.not_lt, ← fitsEngine_iff,
    Bool.not_eq_true, ← Store.sample_eq_error_iff hopens hf]
  apply or_iff_left
  rintro ⟨samples, -, h⟩
  cases h

/-- All columns are typed, or none. -/
theorem typedColumns_eq_ok_iff (hopens : store.Opens db) {size : Nat}
    (hsize : (size : Int) < Integer.wordBound) {table : Text} {names : List Text}
    {cs : List Column} :
    (typedColumns store size table names).outcome = .ok cs ↔
      List.Forall₂ (Typed db size table) names cs := by
  induction names generalizing cs with
  | nil =>
    rw [List.forall₂_nil_left_iff]
    constructor
    · intro h
      cases h
      rfl
    · rintro rfl
      rfl
  | cons n names ih =>
    rw [typedColumns, Traced.outcome_bind_eq_ok_iff, List.forall₂_cons_left_iff]
    constructor
    · rintro ⟨type, htype, h⟩
      obtain ⟨rest, hrest, h⟩ := Traced.outcome_bind_eq_ok_iff.1 h
      cases h
      exact ⟨_, _, ((inferColumn_eq_ok_iff hopens).1 htype).2, ih.1 hrest, rfl⟩
    · rintro ⟨⟨_, type⟩, rest, ⟨rfl, htyped⟩, hrest, rfl⟩
      refine ⟨type, (inferColumn_eq_ok_iff hopens).2 ⟨hsize, rfl, htyped⟩, ?_⟩
      exact Traced.outcome_bind_eq_ok_iff.2 ⟨rest, ih.2 hrest, rfl⟩

/-- A sample size beyond the engine comes to light at the first column, or not at all. -/
theorem typedColumns_eq_error_iff (hopens : store.Opens db) {size : Nat} {table : Text}
    {names : List Text} {f : Fault} (hf : ∀ e, f ≠ .search e) :
    (typedColumns store size table names).outcome = .error f ↔
      f = .limitBeyondEngine ∧ Integer.wordBound ≤ (size : Int) ∧
        ∃ n ∈ names.head?, ∃ values, Store.Answers db table n values := by
  induction names with
  | nil =>
    refine iff_of_false nofun ?_
    rintro ⟨-, -, n, hn, -⟩
    cases hn
  | cons n names ih =>
    rw [typedColumns, Traced.outcome_bind_eq_error_iff, inferColumn_eq_error_iff hopens hf]
    simp only [List.head?_cons, Option.mem_some_iff, exists_eq_left']
    apply or_iff_left
    rintro ⟨type, htype, h⟩
    -- the first column was sampled, so the size shows at no later column either
    rcases Traced.outcome_bind_eq_error_iff.1 h with hrest | ⟨rest, -, h⟩
    · exact absurd ((inferColumn_eq_ok_iff hopens).1 htype).1 (Int.not_lt.2 (ih.1 hrest).2.1)
    · cases h

/-! ## Companions -/

theorem baseColumns_eq_ok_iff (hopens : store.Opens db) {base companion : Text}
    {names : List Text} :
    baseColumns store base companion = .ok names ↔ Listed db base names := by
  unfold Listed
  rw [← Store.columns_eq_ok_iff hopens]
  unfold baseColumns
  split
  · next h =>
    rw [h]
    exact iff_of_false nofun nofun
  · exact Iff.rfl

theorem exists_search_of_baseColumns (hopens : store.Opens db) {base companion : Text} {f : Fault}
    (hf : baseColumns store base companion = .error f) : ∃ e, f = .search e := by
  unfold baseColumns at hf
  split at hf
  · cases hf
    exact ⟨_, rfl⟩
  · exact Store.exists_search_of_columns hopens hf

/-- A companion is read as the table that the engine answers for, all of it or nothing. -/
theorem table_eq_ok_iff (hopens : store.Opens db)
    (hsize : (settings.sampleSize : Int) < Integer.wordBound) {companion : Text} {t : Table} :
    (table settings store companion).outcome = .ok t ↔
      Entry db settings.sampleSize (baseName settings.suffix companion) t := by
  unfold table
  dsimp only
  rw [Traced.outcome_bind_eq_ok_iff, Traced.outcome_ofExcept]
  constructor
  · rintro ⟨names, hnames, h⟩
    obtain ⟨cs, hcolumns, h⟩ := Traced.outcome_bind_eq_ok_iff.1 h
    cases h
    exact ⟨rfl, names, (baseColumns_eq_ok_iff hopens).1 hnames,
      (typedColumns_eq_ok_iff hopens hsize).1 hcolumns⟩
  · rintro ⟨hname, names, hnames, hcolumns⟩
    refine ⟨names, (baseColumns_eq_ok_iff hopens).2 hnames, Traced.outcome_bind_eq_ok_iff.2
      ⟨t.columns, (typedColumns_eq_ok_iff hopens hsize).2 hcolumns, ?_⟩⟩
    rw [← hname]
    rfl

/-- A reading without a report fails for the sample size, and only where the engine would have
answered for the first column. -/
theorem table_eq_error_iff (hopens : store.Opens db) {companion : Text} {f : Fault}
    (hf : ∀ e, f ≠ .search e) :
    (table settings store companion).outcome = .error f ↔
      f = .limitBeyondEngine ∧ Integer.wordBound ≤ (settings.sampleSize : Int) ∧
        ∃ c cs values, Listed db (baseName settings.suffix companion) (c :: cs) ∧
          Store.Answers db (baseName settings.suffix companion) c values := by
  unfold table
  dsimp only
  rw [Traced.outcome_bind_eq_error_iff, Traced.outcome_ofExcept]
  constructor
  · rintro (hnames | ⟨names, hnames, h⟩)
    · obtain ⟨e, rfl⟩ := exists_search_of_baseColumns hopens hnames
      exact absurd rfl (hf e)
    · rcases Traced.outcome_bind_eq_error_iff.1 h with hcolumns | ⟨cs, -, h⟩
      · obtain ⟨hfault, hsize, c, hc, values, hvalues⟩ :=
          (typedColumns_eq_error_iff hopens hf).1 hcolumns
        obtain ⟨cs, rfl⟩ := List.head?_eq_some_iff.1 hc
        exact ⟨hfault, hsize, c, cs, values, (baseColumns_eq_ok_iff hopens).1 hnames, hvalues⟩
      · cases h
  · rintro ⟨hfault, hsize, c, cs, values, hnames, hvalues⟩
    refine .inr ⟨c :: cs, (baseColumns_eq_ok_iff hopens).2 hnames,
      Traced.outcome_bind_eq_error_iff.2 (.inl ?_)⟩
    exact (typedColumns_eq_error_iff hopens hf).2 ⟨hfault, hsize, c, rfl, values, hvalues⟩

/-! ## What the engine's answers are about -/

section

variable {state : State} {size : Nat} {base : Text} (hreflects : db.Reflects state)

include hreflects

/-- A table one of whose columns can be sampled has its columns listed. -/
theorem columnsOf_of_answers (hbase : Sql.IsShown base) {column : Text} {values : List Datum}
    (h : Store.Answers db base column values) :
    db.columnsOf base = .ok ((state.columns base).map (·.1)) := by
  rcases hreflects.columns base hbase with hcolumns | hnone
  · exact hcolumns
  · exact absurd h.2.2 (hnone column values)

theorem typed_iff (hbase : Sql.IsShown base) {c : Text × List Datum}
    (hc : c ∈ state.columns base) (hshown : Sql.IsShown c.1) {column : Column} :
    Typed db size base c.1 column ↔
      (∃ values, Store.Answers db base c.1 values) ∧ State.typed size c = column := by
  constructor
  · rintro ⟨hname, values, hvalues, htype⟩
    refine ⟨⟨values, hvalues⟩, ?_⟩
    rw [hreflects.values base hbase c hc hshown values hvalues.2.2] at htype
    cases column
    cases hname
    cases htype
    rfl
  · rintro ⟨⟨values, hvalues⟩, rfl⟩
    refine ⟨rfl, values, hvalues, ?_⟩
    rw [hreflects.values base hbase c hc hshown values hvalues.2.2]
    rfl

/-- The columns are typed exactly if all of them can be sampled, and then each by its own
values. -/
theorem forall₂_typed_iff (hshown : IsShown state base) {cs : List Column} :
    List.Forall₂ (Typed db size base) ((state.columns base).map (·.1)) cs ↔
      (∀ c ∈ state.columns base, ∃ values, Store.Answers db base c.1 values) ∧
        (state.columns base).map (State.typed size) = cs := by
  rw [← List.forall₂_eq_eq_eq, List.forall₂_map_left_iff, List.forall₂_map_left_iff,
    ← List.forall₂_and_left]
  have hself : ∀ c ∈ state.columns base, c ∈ state.columns base := fun c hc => hc
  constructor
  · intro h
    apply ((List.forall₂_and_left _ _).2 ⟨hself, h⟩).imp
    rintro c column ⟨hc, htyped⟩
    exact (typed_iff hreflects hshown.1 hc (hshown.2 c hc)).1 htyped
  · intro h
    apply ((List.forall₂_and_left _ _).2 ⟨hself, h⟩).imp
    rintro c column ⟨hc, htyped⟩
    exact (typed_iff hreflects hshown.1 hc (hshown.2 c hc)).2 htyped

/-- Where names are shown, the engine's answers are about what is in the database. -/
theorem entry_iff_describes (hshown : IsShown state base) {t : Table} :
    Entry db size base t ↔ Describes db state size base t := by
  constructor
  · rintro ⟨rfl, names, ⟨-, hlisted, hne⟩, hcolumns⟩
    -- the first column was sampled, so what is listed are the columns that there are
    obtain ⟨n, rest, rfl⟩ := List.exists_cons_of_ne_nil hne
    obtain ⟨c, _, ⟨-, values, hvalues, -⟩, -, -⟩ := List.forall₂_cons_left_iff.1 hcolumns
    have hthere := columnsOf_of_answers hreflects hshown.1 hvalues
    have hnames : n :: rest = (state.columns t.name).map (·.1) :=
      Except.ok.inj (hlisted.symm.trans hthere)
    rw [hnames] at hcolumns hne
    obtain ⟨hanswers, htyped⟩ := (forall₂_typed_iff hreflects hshown).1 hcolumns
    refine ⟨mt List.map_eq_nil_iff.2 hne, hanswers, ?_⟩
    unfold Database.State.described
    rw [htyped]
  · rintro ⟨hne, hanswers, rfl⟩
    obtain ⟨c, cs, hcs⟩ := List.exists_cons_of_ne_nil hne
    obtain ⟨values, hvalues⟩ := hanswers c (hcs ▸ List.mem_cons_self)
    refine ⟨rfl, (state.columns base).map (·.1), ⟨hvalues.1, ?_, mt List.map_eq_nil_iff.1 hne⟩, ?_⟩
    · exact columnsOf_of_answers hreflects hshown.1 hvalues
    · exact (forall₂_typed_iff hreflects hshown).2 ⟨hanswers, rfl⟩

end

/-! ## Names that are not shown -/

section

variable (hbreaks : db.PassesOverBreaks)

include hbreaks

section

variable {base : Text} (hbare : Sql.isBare base = true)
  (hstem : Sql.reservedWords.contains (Sql.stem base) = false)

include hbare hstem

theorem listed_iff_stem {names : List Text} :
    Listed db base names ↔ Listed db (Sql.stem base) names := by
  unfold Listed
  rw [Sql.null_mem_stem_iff, hbreaks.columns base names hbare hstem]

theorem answers_iff_stem {column : Text} {values : List Datum} :
    Store.Answers db base column values ↔ Store.Answers db (Sql.stem base) column values := by
  unfold Store.Answers
  rw [Sql.null_mem_stem_iff, hbreaks.table base column values hbare hstem]

/-- A table whose name is written bare is read as the one that its stem names. -/
theorem entry_iff_stem {size : Nat} {t : Table} :
    Entry db size base t ↔
      t.name = base ∧ Entry db size (Sql.stem base) ⟨Sql.stem base, t.columns⟩ := by
  have htyped : ∀ n c, Typed db size base n c ↔ Typed db size (Sql.stem base) n c := by
    intro n c
    unfold Typed
    simp only [answers_iff_stem hbreaks hbare hstem]
  have hcolumns : ∀ names, List.Forall₂ (Typed db size base) names t.columns ↔
      List.Forall₂ (Typed db size (Sql.stem base)) names t.columns := by
    intro names
    exact ⟨fun h => h.imp fun n c => (htyped n c).1, fun h => h.imp fun n c => (htyped n c).2⟩
  constructor
  · rintro ⟨hname, names, hlisted, hall⟩
    exact ⟨hname, rfl, names, (listed_iff_stem hbreaks hbare hstem).1 hlisted,
      (hcolumns names).1 hall⟩
  · rintro ⟨hname, -, names, hlisted, hall⟩
    exact ⟨hname, names, (listed_iff_stem hbreaks hbare hstem).2 hlisted, (hcolumns names).2 hall⟩

end

/-- A column whose name is written bare is typed as the one that its stem names. -/
theorem typed_iff_stem {size : Nat} {table n : Text} (hbare : Sql.isBare n = true)
    (hstem : Sql.reservedWords.contains (Sql.stem n) = false) {c : Column} :
    Typed db size table n c ↔
      c.name = n ∧ Typed db size table (Sql.stem n) ⟨Sql.stem n, c.type⟩ := by
  have hanswers : ∀ values, Store.Answers db table n values ↔
      Store.Answers db table (Sql.stem n) values := by
    intro values
    unfold Store.Answers
    rw [Sql.null_mem_stem_iff, hbreaks.column table n values hbare hstem]
  constructor
  · rintro ⟨hname, values, hvalues, htype⟩
    exact ⟨hname, rfl, values, (hanswers values).1 hvalues, htype⟩
  · rintro ⟨hname, -, values, hvalues, htype⟩
    exact ⟨hname, values, (hanswers values).2 hvalues, htype⟩

end

end Discovery
end PlainSearch
