/-
  Proofs/Schema/Companion.lean --- a table and its companion find each other.

  WHAT THIS FILE IS FOR.  Discovery takes the suffix off the name of a companion, and a
  statement puts it on again.  In a catalog that was discovered with the same settings,

      each table has the companion that it was found behind;

      tables have different names, so a table is found by its name;

      every statement is a search of a companion that is a table of the database

  (`catalog_agrees_with_companions`).  None of this depends on what a suffix looks
  like, or on where else in a name it stands: what is taken off the end is what is put
  on there (`companion_of_table`).
-/
import PlainSearch.Proofs.Request.Statement
import PlainSearch.Proofs.Schema.Discovery

set_option autoImplicit false

namespace PlainSearch

/-- With different names, every table is found by its own. -/
theorem Catalog.get?_name_of_nodup {c : Catalog} (h : c.names.Nodup) {t : Table}
    (ht : t ∈ c.tables) : c.get? t.name = some t := by
  unfold Catalog.get?
  cases hfind : c.tables.find? fun u => u.name = t.name with
  | none => exact absurd (decide_eq_true rfl) (List.find?_eq_none.1 hfind t ht)
  | some u =>
    have hname : u.name = t.name := by simpa using List.find?_some hfind
    rw [List.inj_on_of_nodup_map h (List.mem_of_find?_eq_some hfind) ht hname]

namespace Discovery

variable {settings : Settings} {store : Store}

theorem baseName_append {suffix m : Text} (h : Text.endsWith suffix m = true) :
    baseName suffix m ++ suffix = m := by
  obtain ⟨base, hbase⟩ := Text.endsWith_iff.1 h
  unfold baseName
  rw [Text.stripSuffix?_eq_some_iff.2 hbase, Option.getD_some, hbase]

theorem name_of_table {m : Text} {t : Table}
    (h : (table settings store m).outcome = .ok t) : t.name = baseName settings.suffix m := by
  unfold table at h
  dsimp only at h
  obtain ⟨names, -, h⟩ := Traced.outcome_bind_eq_ok_iff.1 h
  obtain ⟨cs, -, h⟩ := Traced.outcome_bind_eq_ok_iff.1 h
  cases h
  rfl

/-- The companion of the table behind `m` is `m`. -/
theorem companion_of_table {m : Text} {t : Table} (hm : Text.endsWith settings.suffix m = true)
    (h : (table settings store m).outcome = .ok t) : t.companion settings.suffix = m := by
  unfold Table.companion
  rw [name_of_table h, baseName_append hm]

/-- The tables of a catalog were found behind some of the companions, in their order. -/
theorem exists_companions_of_catalog {db : Reader} (hopens : store.Opens db) {names : List Text}
    (hlists : db.Lists names) {c : Catalog} (h : (catalog settings store).outcome = .ok c) :
    ∃ ms, ms.Sublist (names.filter (Text.endsWith settings.suffix)) ∧
      List.Forall₂ (fun m t => (table settings store m).outcome = .ok t ∧
        t.companion settings.suffix = m) ms c.tables := by
  unfold catalog at h
  obtain ⟨companions, hcompanions, h⟩ := Traced.outcome_bind_eq_ok_iff.1 h
  rw [Traced.outcome_ofExcept, Store.companions_of_lists hopens hlists] at hcompanions
  cases hcompanions
  obtain ⟨ts, hts, h⟩ := Traced.outcome_bind_eq_ok_iff.1 h
  cases h
  obtain ⟨ms, hms, hall⟩ := (tables_eq_ok_iff.1 hts).2.exists_sublist
  have hends : ∀ m ∈ ms, Text.endsWith settings.suffix m = true := fun m hm =>
    (List.mem_filter.1 (hms.subset hm)).2
  refine ⟨ms, hms, ?_⟩
  apply ((List.forall₂_and_left _ _).2 ⟨hends, hall⟩).imp
  rintro m t ⟨hm, hread⟩
  exact ⟨hread, companion_of_table hm hread⟩

/-- A statement is a search of the companion of a table of the catalog. -/
theorem exists_search_of_statement? {c : Catalog} {raw sql : Text}
    (h : (Request.statement? settings c raw).outcome = .ok (some sql)) :
    ∃ t ∈ c.tables, ∃ rest, sql = "SELECT rowid, * FROM ".toList ++ t.companion settings.suffix
      ++ " WHERE ".toList ++ t.companion settings.suffix ++ " MATCH '".toList ++ rest := by
  obtain ⟨p, hplan, rfl⟩ := Request.statement?_eq_some_iff.1 h
  obtain ⟨target, e, n, htarget, -, -, hp⟩ := Request.plan_eq_some_iff.1 hplan
  obtain ⟨tail, -, hstatement⟩ := Request.exists_tail hplan
  have hmem : p.target ∈ c.tables := by
    rw [hp]
    exact List.mem_of_find?_eq_some htarget
  refine ⟨p.target, hmem, Sql.literalBody p.expression ++ '\'' :: tail, ?_⟩
  unfold Request.searchFront at hstatement
  rw [hstatement, List.append_assoc _ (Sql.literalBody p.expression)]

/-- In a catalog that was discovered, each table has the companion that it was found behind, tables
have different names, and every statement searches a companion that is a table of the database.
Of the engine nothing more is relied on than that it lists the tables, which have different names. -/
theorem catalog_agrees_with_companions {settings : Settings} {store : Store} {db : Reader}
    {tableNames : List Text} {c : Catalog} (hopens : store.Opens db) (hlists : db.Lists tableNames)
    (hunique : tableNames.Nodup) (h : (catalog settings store).outcome = .ok c) :
    ∃ names ms, store.companions settings.suffix = .ok names ∧ ms.Sublist names ∧
      List.Forall₂ (fun m t => (table settings store m).outcome = .ok t ∧
        t.companion settings.suffix = m) ms c.tables ∧
      c.tables.map (·.companion settings.suffix) = ms ∧
      c.names.Nodup ∧
      (∀ t ∈ c.tables, c.get? t.name = some t) ∧
      ∀ raw sql, (Request.statement? settings c raw).outcome = .ok (some sql) →
        ∃ t ∈ c.tables, t.companion settings.suffix ∈ tableNames ∧
          ∃ rest, sql = "SELECT rowid, * FROM ".toList ++ t.companion settings.suffix
            ++ " WHERE ".toList ++ t.companion settings.suffix ++ " MATCH '".toList ++ rest := by
  obtain ⟨ms, hms, hall⟩ := exists_companions_of_catalog hopens hlists h
  have hmap : c.tables.map (·.companion settings.suffix) = ms := by
    rw [← List.forall₂_eq_eq_eq, List.forall₂_map_left_iff]
    exact (hall.imp fun m t hread => hread.2).flip
  have hsub : (c.tables.map (·.companion settings.suffix)).Sublist tableNames := by
    rw [hmap]
    exact hms.trans List.filter_sublist
  have hnames : c.names.Nodup := by
    -- names differ because they differ with the suffix behind them
    apply List.Nodup.of_map (· ++ settings.suffix)
    rw [Catalog.names, List.map_map]
    exact hunique.sublist hsub
  refine ⟨_, ms, Store.companions_of_lists hopens hlists _, hms, hall, hmap, hnames, ?_, ?_⟩
  · intro t ht
    exact Catalog.get?_name_of_nodup hnames ht
  · intro raw sql hsql
    obtain ⟨t, ht, hsearch⟩ := exists_search_of_statement? hsql
    exact ⟨t, ht, hsub.subset (List.mem_map_of_mem ht), hsearch⟩

/-- A suffix that stands in the name of a companion twice is taken off once. -/
theorem catalog_agrees_with_companions_suffix_twice :
    ∃ c, (catalog {} (Installed.store "sqlite:///lib.db".toList
        ⟨[.table "T_fts_1".toList ["A".toList] [],
          .table "T_fts_1_fts".toList ["A".toList] []]⟩)).outcome = .ok c ∧
      c.tables.map (·.companion "_fts".toList) = ["T_fts_1_fts".toList] ∧
      c.get? "T_fts_1".toList = some ⟨"T_fts_1".toList, [⟨"A".toList, .text⟩]⟩ ∧
      ∃ t ∈ c.tables, ∃ rest,
        "SELECT rowid, * FROM T_fts_1_fts WHERE T_fts_1_fts MATCH 't_fts_1'".toList
          = "SELECT rowid, * FROM ".toList ++ t.companion "_fts".toList ++ " WHERE ".toList
            ++ t.companion "_fts".toList ++ " MATCH '".toList ++ rest := by
  generalize hdb : Database.mk [.table "T_fts_1".toList ["A".toList] [],
    .table "T_fts_1_fts".toList ["A".toList] []] = db
  have hopens : (Installed.store "sqlite:///lib.db".toList db).Opens db.reader := ⟨_, rfl, rfl⟩
  have hnames : db.tableNames = ["T_fts_1".toList, "T_fts_1_fts".toList] := by
    rw [← hdb]
    rfl
  have hr : db.relation? "T_fts_1".toList = .ok (some (.ofRows ["A".toList] [])) := by
    rw [← hdb]
    exact Database.relation?_of_views_eq_nil rfl rfl
  have hsound : (Database.Relation.ofRows ["A".toList] []).IsSound :=
    Database.Relation.isSound_ofRows [] (List.nodup_singleton _) (by decide)
  have hanswers : Store.Answers db.reader "T_fts_1".toList "A".toList [] :=
    ⟨by decide, by decide, Database.columnValues_eq hsound rfl hr List.mem_cons_self rfl⟩
  have hentry : Entry db.reader 10 "T_fts_1".toList
      ⟨"T_fts_1".toList, [⟨"A".toList, .text⟩]⟩ :=
    ⟨rfl, ["A".toList], ⟨by decide, Database.columnsOf_eq rfl hr, by decide⟩,
      .cons ⟨rfl, [], hanswers, rfl⟩ .nil⟩
  have hcatalog : (catalog {} (Installed.store "sqlite:///lib.db".toList db)).outcome
      = .ok ⟨[⟨"T_fts_1".toList, [⟨"A".toList, .text⟩]⟩]⟩ := by
    apply catalog_eq_of_found hopens db.reader_lists (by decide)
    rw [hnames]
    exact .read hentry .nil
  obtain ⟨names, ms, -, -, -, -, -, hget, hsearch⟩ :=
    catalog_agrees_with_companions hopens db.reader_lists (by rw [hnames]; decide) hcatalog
  refine ⟨_, hcatalog, rfl, hget _ List.mem_cons_self, ?_⟩
  obtain ⟨t, ht, -, rest, hrest⟩ := hsearch "t_fts_1".toList _ rfl
  exact ⟨t, ht, rest, hrest⟩

end Discovery
end PlainSearch
