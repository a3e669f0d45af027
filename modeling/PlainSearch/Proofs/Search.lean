/-
  Proofs/Search.lean --- what asking a request hands to the engine, and what comes of it.

  WHAT THIS FILE IS FOR.  Asking discovers the catalog, states the request over it,
  and runs the statement.  Of these only the last hands a statement to the engine,
  and it tells so in the journal (`Store.executing`).  Hence

      a statement is handed over exactly if it is the one that the request comes to,
      so never two, and none if the request is not understood
      (`executing_mem_ask_iff`);

      asking comes to what running that statement comes to (`ask_outcome`), which
      the engine's reply decides alone (`execute_outcome`): the rows, in the
      engine's order and counted, or a failure that carries the statement.  Rows of
      which one has not as many values as there are columns are a failure too.

  That there is an engine to run a statement on was seen to by the discovery
  (`exists_engine_of_statement?`).
-/
import PlainSearch.Proofs.Journal
import PlainSearch.Proofs.Schema.Discovery
import PlainSearch.Search

set_option autoImplicit false

namespace PlainSearch

/-- The entry that tells that a statement is handed to the engine. -/
def Store.executing (sql : Text) : Entry := ⟨.debug, .store, "Executing: ".toList ++ sql⟩

theorem Store.executing_inj {sql sql' : Text} :
    Store.executing sql = Store.executing sql' ↔ sql = sql' := by
  constructor
  · intro h
    exact List.append_cancel_left (Entry.mk.inj h).2.2
  · rintro rfl
    rfl

/-- The engine is handed the statement that is run, and no other. -/
theorem Store.executing_mem_execute_iff {store : Store} {answer : Store.Answer} {sql sql' : Text} :
    Store.executing sql' ∈ (store.execute answer sql).journal ↔ sql' = sql := by
  unfold Store.execute
  rw [Traced.mem_journal_bind_iff_left, ← Store.executing_inj]
  · exact List.mem_singleton
  · intro _
    split
    · exact nofun
    · split <;> exact nofun

/-! ## Discovery and planning hand nothing over -/

namespace Discovery

open Traced

variable (settings : Settings) (store : Store)

theorem silentOn_inferColumn (size : Int) (t column : Text) :
    SilentOn .store (inferColumn store size t column) :=
  (SilentOn.ofExcept _).bind fun _ => (SilentOn.record (by decide)).bind fun _ => SilentOn.pure _

theorem silentOn_typedColumns (size : Int) (t : Text) (columns : List Text) :
    SilentOn .store (typedColumns store size t columns) := by
  induction columns with
  | nil => exact SilentOn.pure _
  | cons c cs ih =>
    exact (silentOn_inferColumn store size t c).bind fun _ => ih.bind fun _ => SilentOn.pure _

theorem silentOn_table (m : Text) : SilentOn .store (table settings store m) :=
  (SilentOn.ofExcept _).bind fun _ =>
    (silentOn_typedColumns store _ _ _).bind fun _ => SilentOn.pure _

theorem silentOn_tables (ms : List Text) : SilentOn .store (tables settings store ms) := by
  induction ms with
  | nil => exact SilentOn.pure _
  | cons m ms ih =>
    refine (silentOn_table settings store m).attempt.bind fun read => ?_
    cases read with
    | ok t => exact ih.bind fun _ => SilentOn.pure _
    | error e => exact (SilentOn.record (by decide)).bind fun _ => ih

theorem silentOn_catalog : SilentOn .store (catalog settings store) :=
  (SilentOn.ofExcept _).bind fun _ => (silentOn_tables settings store _).bind fun _ =>
    (SilentOn.record (by decide)).bind fun _ => SilentOn.pure _

end Discovery

namespace Request

open Traced

variable (settings : Settings) (catalog : Catalog) (raw : Text)

theorem source_ne_store_of_mem_filterEntries {table : Table} {text : Text} {e : Entry}
    (he : e ∈ filterEntries table text) : e.source ≠ .store := by
  obtain ⟨⟨o, condition⟩, -, ho⟩ := List.mem_filterMap.1 he
  cases condition with
  | none =>
    cases ho
    exact nofun
  | some condition => cases ho

theorem silentOn_plan : SilentOn .store (plan settings catalog raw) := by
  simp only [plan]
  split
  · exact (SilentOn.record (by decide)).bind fun _ => SilentOn.pure _
  · next target _ =>
    refine (SilentOn.ofExcept _).bind fun (marker, ts) => ?_
    have hmarker : ∀ e ∈ marker.toList.map markerEntry, e.source ≠ .store := by
      intro e he
      obtain ⟨m, -, rfl⟩ := List.mem_map.1 he
      exact nofun
    exact (SilentOn.recordAll hmarker).bind fun _ => (SilentOn.ofExcept _).bind fun _ =>
      (SilentOn.recordAll fun _ => source_ne_store_of_mem_filterEntries).bind fun _ =>
        (SilentOn.ofExcept _).bind fun _ => SilentOn.pure _

theorem silentOn_statement? : SilentOn .store (statement? settings catalog raw) := by
  refine (silentOn_plan settings catalog raw).bind fun found => ?_
  cases found with
  | none => exact SilentOn.pure _
  | some p => exact (SilentOn.record (by decide)).bind fun _ => SilentOn.pure _

end Request

namespace Search

open Traced

variable {settings : Settings} {store : Store} {answer : Store.Answer} {query sql : Text}

theorem silentOn_statement? :
    SilentOn .store (statement? settings store none query) :=
  (Discovery.silentOn_catalog settings store).bind fun c =>
    Request.silentOn_statement? settings c query

/-- Where a catalog was discovered, there is an engine. -/
theorem exists_engine_of_statement? {found : Option Text}
    (h : (statement? settings store none query).outcome = .ok found) :
    ∃ e, store.engine = .ok e := by
  obtain ⟨c, hcatalog, -⟩ := outcome_bind_eq_ok_iff.1 h
  unfold Discovery.catalog at hcatalog
  obtain ⟨names, hnames, -⟩ := outcome_bind_eq_ok_iff.1 hcatalog
  obtain ⟨db, -, ⟨e, he, -⟩, -, -⟩ := Store.companions_eq_ok_iff.1 hnames
  exact ⟨e, he⟩

/-! ## Running a statement -/

/-- The report of rows. -/
def reportOf (query sql : Text) (columns : List Text) (rows : List Database.Row) : Report where
  query := query
  sql := sql
  count := rows.length
  rows := rows.map fun row => Fields.ofPairs columns (row.map Database.stored)

/-- The failure of a statement that the engine gave no rows for. -/
def failureOf (sql reason : Text) : Fault :=
  .search (.query ("Query execution failed: ".toList ++ reason) (some sql))

/-- The first row that has not as many values as there are columns. -/
def uneven? (columns : List Text) (rows : List Database.Row) : Option Database.Row :=
  rows.find? fun row => row.length ≠ columns.length

theorem uneven?_eq_none_iff {columns : List Text} {rows : List Database.Row} :
    uneven? columns rows = none ↔ ∀ row ∈ rows, row.length = columns.length := by
  simp [uneven?]

/-- What comes of a statement, by what the engine replies. -/
def answered (query sql : Text) : Store.Reply → Except Fault Report
  | .rows columns rows =>
    match uneven? columns rows with
    | some row => .error (.unevenRow (row.length < columns.length))
    | none => .ok (reportOf query sql columns rows)
  | .failure reason => .error (failureOf sql reason)
  | .noRows => .error (failureOf sql Store.noRowsReason)

/-- Rows are put under the names of their columns, all of them or none. -/
theorem mapM_record (columns : List Text) (rows : List Database.Row) :
    (rows.map fun row => row.map Database.stored).mapM (record columns) =
      match uneven? columns rows with
      | some row => .error (.unevenRow (row.length < columns.length))
      | none => .ok (rows.map fun row => Fields.ofPairs columns (row.map Database.stored)) := by
  unfold uneven?
  induction rows with
  | nil => rfl
  | cons row rows ih =>
    rw [List.map_cons, List.mapM_cons, ih]
    by_cases heven : row.length = columns.length
    · have hrecord : record columns (row.map Database.stored)
          = .ok (Fields.ofPairs columns (row.map Database.stored)) := by
        rw [record, List.length_map, if_pos heven]
      rw [hrecord, List.find?_cons_of_neg (by simpa using heven)]
      cases rows.find? fun row => row.length ≠ columns.length <;> rfl
    · have hrecord : record columns (row.map Database.stored)
          = .error (.unevenRow (row.length < columns.length)) := by
        rw [record, List.length_map, if_neg heven]
      rw [hrecord, List.find?_cons_of_pos (by simpa using heven)]
      rfl

/-- With an engine, running a statement comes to what the engine replies. -/
theorem execute_outcome {e : Location.Engine} (he : store.engine = .ok e) :
    (execute store answer query sql).outcome = answered query sql (answer sql) := by
  unfold execute Store.execute
  rw [outcome_bind, outcome_bind, outcome_record]
  dsimp only
  rw [he]
  cases hreply : answer sql with
  | rows columns rows =>
    simp only [outcome_bind, outcome_pure, outcome_record, outcome_ofExcept, mapM_record,
      answered]
    cases uneven? columns rows with
    | some row => rfl
    | none => simp only [reportOf, List.length_map]
  | failure reason => rfl
  | noRows => rfl

/-- Running a statement hands over that statement and no other. -/
theorem executing_mem_execute_iff {sql' : Text} :
    Store.executing sql' ∈ (execute store answer query sql).journal ↔ sql' = sql := by
  unfold execute
  rw [mem_journal_bind_iff_left, Store.executing_mem_execute_iff]
  rintro ⟨columns, rows⟩
  have hresults : Source.results ≠ .store := nofun
  exact (SilentOn.ofExcept _).bind fun _ =>
    (SilentOn.record hresults).bind fun _ => SilentOn.pure _

/-! ## Asking -/

theorem ask_outcome :
    (ask settings store none answer query).outcome =
      match (statement? settings store none query).outcome with
      | .error f => .error f
      | .ok none => .ok none
      | .ok (some sql) => (answered query sql (answer sql)).map some := by
  unfold ask
  rw [outcome_bind]
  cases hfound : (statement? settings store none query).outcome with
  | error f => rfl
  | ok found =>
    cases found with
    | none => rfl
    | some sql =>
      obtain ⟨e, he⟩ := exists_engine_of_statement? hfound
      show (some <$> execute store answer query sql).outcome = _
      rw [outcome_map, execute_outcome he]

/-- A statement is handed to the engine exactly if it is the one that the request comes to. -/
theorem executing_mem_ask_iff :
    Store.executing sql ∈ (ask settings store none answer query).journal ↔
      (statement? settings store none query).outcome = .ok (some sql) := by
  unfold ask
  rw [mem_journal_bind_iff_right silentOn_statement?]
  constructor
  · rintro ⟨found, hfound, hmem⟩
    cases found with
    | none => cases hmem
    | some sql' =>
      change _ ∈ (some <$> execute store answer query sql').journal at hmem
      rw [journal_map, executing_mem_execute_iff] at hmem
      rw [hfound, hmem]
  · intro hfound
    refine ⟨some sql, hfound, ?_⟩
    show _ ∈ (some <$> execute store answer query sql).journal
    rw [journal_map, executing_mem_execute_iff]

theorem ask_eq_none_iff :
    (ask settings store none answer query).outcome = .ok none ↔
      (statement? settings store none query).outcome = .ok none := by
  rw [ask_outcome]
  cases (statement? settings store none query).outcome with
  | error f => simp
  | ok found =>
    cases found with
    | none => simp
    | some sql => cases hanswered : answered query sql (answer sql) <;> simp [hanswered, Except.map]

theorem answered_eq_ok_iff {reply : Store.Reply} {r : Report} :
    answered query sql reply = .ok r ↔
      ∃ columns rows, reply = .rows columns rows ∧ (∀ row ∈ rows, row.length = columns.length) ∧
        r = reportOf query sql columns rows := by
  cases reply with
  | rows columns rows =>
    simp only [← uneven?_eq_none_iff, answered]
    cases huneven : uneven? columns rows <;> simp [huneven, eq_comm]
  | failure reason => simp [answered]
  | noRows => simp [answered]

/-- There is a report exactly if the engine gives rows for the statement, each with a value for
every column, and it is of those rows. -/
theorem ask_eq_some_iff {r : Report} :
    (ask settings store none answer query).outcome = .ok (some r) ↔
      ∃ sql columns rows, (statement? settings store none query).outcome = .ok (some sql) ∧
        answer sql = .rows columns rows ∧ (∀ row ∈ rows, row.length = columns.length) ∧
        r = reportOf query sql columns rows := by
  rw [ask_outcome]
  cases hfound : (statement? settings store none query).outcome with
  | error f => simp
  | ok found =>
    cases found with
    | none => simp
    | some sql =>
      have hreport : (answered query sql (answer sql)).map some = .ok (some r) ↔
          answered query sql (answer sql) = .ok r := by
        cases answered query sql (answer sql) <;> simp [Except.map]
      show (answered query sql (answer sql)).map some = _ ↔ _
      rw [hreport, answered_eq_ok_iff]
      constructor
      · rintro ⟨columns, rows, hreply, heven, hr⟩
        exact ⟨sql, columns, rows, rfl, hreply, heven, hr⟩
      · rintro ⟨_, columns, rows, ⟨⟩, hreply, heven, hr⟩
        exact ⟨columns, rows, hreply, heven, hr⟩

/-- A failure before any statement is handed over is one of discovery or planning. -/
theorem statement?_eq_error_of_ask {f : Fault}
    (h : (ask settings store none answer query).outcome = .error f)
    (hnone : ∀ sql, Store.executing sql ∉ (ask settings store none answer query).journal) :
    (statement? settings store none query).outcome = .error f := by
  rw [ask_outcome] at h
  split at h
  · next hfound =>
    cases h
    exact hfound
  · cases h
  · next sql hfound => exact absurd (executing_mem_ask_iff.2 hfound) (hnone sql)

end Search
end PlainSearch
