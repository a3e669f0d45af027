/-
  Proofs/Schema/Discovery.lean --- which tables a catalog holds, and when there is none.

  WHAT THIS FILE IS FOR.  Discovery goes through the companions of a database one by
  one.  What it makes of one is said in `Proofs/Schema/Entry`; this file says what comes
  of all of them.

  ONE STEP.  A companion that is read puts its table in front of what is found behind
  the rest; one whose reading fails with a report is passed over; any other failure is
  that of the whole (`outcome_tables_cons`).

  THE WHOLE RUN.  So if the list of companions can be read,

      the catalog holds, in the order of the companions, one table for each companion
      that can be read and nothing for any other (`catalog_exact`);

      it is missing only for a sample size beyond the engine's integers, and then
      exactly if the engine would answer for the first column of some table
      (`catalog_fault_iff`).
-/
import PlainSearch.Proofs.Schema.Entry

set_option autoImplicit false

namespace PlainSearch.Discovery

variable {store : Store} {db : Reader} {settings : Settings}

/-! ## Passing over what cannot be read -/

/-- Of companions in their order, the tables of those that have one, and nothing of the others. -/
inductive Found (entry : Text → Table → Prop) : List Text → List Table → Prop where
  | nil : Found entry [] []
  | read {m : Text} {t : Table} {ms : List Text} {ts : List Table} :
      entry m t → Found entry ms ts → Found entry (m :: ms) (t :: ts)
  | skip {m : Text} {ms : List Text} {ts : List Table} :
      (∀ t, ¬ entry m t) → Found entry ms ts → Found entry (m :: ms) ts

namespace Found

variable {entry entry' : Text → Table → Prop} {ms : List Text} {ts : List Table}

theorem congr (h : ∀ m ∈ ms, ∀ t, entry m t ↔ entry' m t) (hfound : Found entry ms ts) :
    Found entry' ms ts := by
  induction hfound with
  | nil => exact .nil
  | read hentry _ ih =>
    refine .read ((h _ List.mem_cons_self _).1 hentry) (ih ?_)
    intro m hm
    exact h m (List.mem_cons_of_mem _ hm)
  | skip hnone _ ih =>
    refine .skip (fun t hentry => hnone t ((h _ List.mem_cons_self t).2 hentry)) (ih ?_)
    intro m hm
    exact h m (List.mem_cons_of_mem _ hm)

/-- Without a companion that has no table, the same tables are found. -/
theorem erase {front back : List Text} {m : Text} (hnone : ∀ t, ¬ entry m t)
    (h : Found entry (front ++ m :: back) ts) : Found entry (front ++ back) ts := by
  induction front generalizing ts with
  | nil =>
    cases h with
    | read hentry _ => exact absurd hentry (hnone _)
    | skip _ hrest => exact hrest
  | cons k front ih =>
    cases h with
    | read hentry hrest => exact .read hentry (ih hrest)
    | skip hskip hrest => exact .skip hskip (ih hrest)

/-- The tables found are those of some of the companions, in their order. -/
theorem exists_sublist (h : Found entry ms ts) :
    ∃ ks, ks.Sublist ms ∧ List.Forall₂ entry ks ts := by
  induction h with
  | nil => exact ⟨[], List.Sublist.refl _, .nil⟩
  | @read m t ms ts hentry _ ih =>
    obtain ⟨ks, hks, hall⟩ := ih
    exact ⟨m :: ks, hks.cons_cons m, .cons hentry hall⟩
  | @skip m ms ts _ _ ih =>
    obtain ⟨ks, hks, hall⟩ := ih
    exact ⟨ks, hks.cons m, hall⟩

end Found

/-! ## One step -/

theorem outcome_tables_cons (settings : Settings) (store : Store) (m : Text) (ms : List Text) :
    (tables settings store (m :: ms)).outcome =
      match (table settings store m).outcome with
      | .ok t => (tables settings store ms).outcome.map (t :: ·)
      | .error (.search _) => (tables settings store ms).outcome
      | .error f => .error f := by
  rw [tables, Traced.outcome_bind, Traced.outcome_attempt]
  cases (table settings store m).outcome with
  | ok t =>
    dsimp only
    rw [Traced.outcome_bind]
    cases (tables settings store ms).outcome <;> rfl
  | error f => cases f <;> rfl

/-! ## The whole run -/

/-- Every failure to read a companion has a report. -/
def Reports (settings : Settings) (store : Store) (m : Text) : Prop :=
  ∀ f, (table settings store m).outcome = .error f → ∃ e, f = .search e

theorem tables_eq_ok_iff {ms : List Text} {ts : List Table} :
    (tables settings store ms).outcome = .ok ts ↔
      (∀ m ∈ ms, Reports settings store m) ∧
        Found (fun m t => (table settings store m).outcome = .ok t) ms ts := by
  induction ms generalizing ts with
  | nil =>
    constructor
    · intro h
      cases h
      exact ⟨nofun, .nil⟩
    · rintro ⟨-, hfound⟩
      cases hfound
      rfl
  | cons m ms ih =>
    rw [outcome_tables_cons, List.forall_mem_cons]
    constructor
    · intro h
      split at h
      · next t ht =>
        cases hrest : (tables settings store ms).outcome with
        | error f =>
          rw [hrest] at h
          cases h
        | ok rest =>
          rw [hrest] at h
          cases h
          obtain ⟨hreports, hfound⟩ := ih.1 hrest
          refine ⟨⟨?_, hreports⟩, .read ht hfound⟩
          intro f hf
          rw [ht] at hf
          cases hf
      · next e he =>
        obtain ⟨hreports, hfound⟩ := ih.1 h
        refine ⟨⟨?_, hreports⟩, .skip ?_ hfound⟩
        · intro f hf
          rw [he] at hf
          cases hf
          exact ⟨e, rfl⟩
        · intro t ht
          rw [he] at ht
          cases ht
      · cases h
    · rintro ⟨⟨hm, hreports⟩, hfound⟩
      cases hfound with
      | @read _ t _ rest ht hrest =>
        rw [ht]
        dsimp only
        rw [ih.2 ⟨hreports, hrest⟩]
        rfl
      | skip hnone hrest =>
        cases hread : (table settings store m).outcome with
        | ok t => exact absurd hread (hnone t)
        | error f =>
          obtain ⟨e, rfl⟩ := hm f hread
          exact ih.2 ⟨hreports, hrest⟩

/-- A failure of the whole is the failure of one companion, and has no report. -/
theorem exists_of_tables_eq_error {ms : List Text} {f : Fault}
    (h : (tables settings store ms).outcome = .error f) :
    (∀ e, f ≠ .search e) ∧ ∃ m ∈ ms, (table settings store m).outcome = .error f := by
  induction ms with
  | nil => cases h
  | cons m ms ih =>
    have hlater : (tables settings store ms).outcome = .error f →
        (∀ e, f ≠ .search e) ∧ ∃ k ∈ m :: ms, (table settings store k).outcome = .error f := by
      intro hrest
      obtain ⟨hf, k, hk, hread⟩ := ih hrest
      exact ⟨hf, k, List.mem_cons_of_mem m hk, hread⟩
    rw [outcome_tables_cons] at h
    split at h
    · cases hrest : (tables settings store ms).outcome with
      | ok rest =>
        rw [hrest] at h
        cases h
      | error g =>
        rw [hrest] at h
        cases h
        exact hlater hrest
    · exact hlater h
    · next g hg hread =>
      cases h
      exact ⟨hg, m, List.mem_cons_self, hread⟩

theorem outcome_catalog (settings : Settings) (store : Store) :
    (catalog settings store).outcome =
      match store.companions settings.suffix with
      | .ok names => (tables settings store names).outcome.map Catalog.mk
      | .error f => .error f := by
  unfold catalog
  rw [Traced.outcome_bind, Traced.outcome_ofExcept]
  cases store.companions settings.suffix with
  | error f => rfl
  | ok names =>
    dsimp only
    rw [Traced.outcome_bind]
    cases (tables settings store names).outcome <;> rfl

/-! ## Catalogs -/

/-- The engine lists the columns of a table and answers for the first of them. -/
def AnswersFirst (db : Reader) (base : Text) : Prop :=
  ∃ c cs values, Listed db base (c :: cs) ∧ Store.Answers db base c values

/-- With a sample size that the engine can be handed, every failure to read a companion has a
report. -/
theorem reports_of_lt (hopens : store.Opens db)
    (hsize : (settings.sampleSize : Int) < Integer.wordBound) (m : Text) :
    Reports settings store m := by
  intro f hread
  apply Classical.byContradiction
  intro hno
  have hf : ∀ e, f ≠ .search e := fun e he => hno ⟨e, he⟩
  exact absurd hsize (Int.not_lt.2 ((table_eq_error_iff hopens hf).1 hread).2.1)

theorem tables_eq_error_iff (hopens : store.Opens db) {ms : List Text} {f : Fault} :
    (tables settings store ms).outcome = .error f ↔
      f = .limitBeyondEngine ∧ Integer.wordBound ≤ (settings.sampleSize : Int) ∧
        ∃ m ∈ ms, AnswersFirst db (baseName settings.suffix m) := by
  have hforward : ∀ g, (tables settings store ms).outcome = .error g →
      g = .limitBeyondEngine ∧ Integer.wordBound ≤ (settings.sampleSize : Int) ∧
        ∃ m ∈ ms, AnswersFirst db (baseName settings.suffix m) := by
    intro g h
    obtain ⟨hg, m, hm, hread⟩ := exists_of_tables_eq_error h
    obtain ⟨hfault, hsize, hfirst⟩ := (table_eq_error_iff hopens hg).1 hread
    exact ⟨hfault, hsize, m, hm, hfirst⟩
  constructor
  · exact hforward f
  · rintro ⟨rfl, hsize, m, hm, hfirst⟩
    have hno : ∀ e, Fault.limitBeyondEngine ≠ .search e := nofun
    have hread : (table settings store m).outcome = .error .limitBeyondEngine :=
      (table_eq_error_iff hopens hno).2 ⟨rfl, hsize, hfirst⟩
    cases hts : (tables settings store ms).outcome with
    | ok ts =>
      obtain ⟨e, he⟩ := (tables_eq_ok_iff.1 hts).1 m hm _ hread
      cases he
    | error g => rw [(hforward g hts).1]

/-- With a sample size that the engine can be handed, the catalog holds the tables that it answers
for, companion by companion. -/
theorem catalog_eq_of_found (hopens : store.Opens db) {tables : List Text}
    (hlists : db.Lists tables) (hsize : (settings.sampleSize : Int) < Integer.wordBound)
    {ts : List Table}
    (h : Found (fun m => Entry db settings.sampleSize (baseName settings.suffix m))
      (tables.filter (Text.endsWith settings.suffix)) ts) :
    (catalog settings store).outcome = .ok ⟨ts⟩ := by
  have hts := tables_eq_ok_iff.2 ⟨fun m _ => reports_of_lt hopens hsize m,
    h.congr fun m _ t => (table_eq_ok_iff hopens hsize).symm⟩
  rw [outcome_catalog, Store.companions_of_lists hopens hlists]
  exact congrArg (Except.map Catalog.mk) hts

/-- A table of one column, which has no rows, and its companion. -/
theorem catalog_of_one_table
    (hopens : store.Opens (Database.reader
      ⟨[.table "T".toList ["A".toList] [], .table "T_fts".toList ["A".toList] []]⟩)) :
    (catalog {} store).outcome = .ok ⟨[⟨"T".toList, [⟨"A".toList, .text⟩]⟩]⟩ := by
  generalize hdb : Database.mk [.table "T".toList ["A".toList] [],
    .table "T_fts".toList ["A".toList] []] = db at hopens
  have hnames : db.tableNames = ["T".toList, "T_fts".toList] := by
    rw [← hdb]
    rfl
  have hr : db.relation? "T".toList = .ok (some (.ofRows ["A".toList] [])) := by
    rw [← hdb]
    exact Database.relation?_of_views_eq_nil rfl rfl
  have hsound : (Database.Relation.ofRows ["A".toList] []).IsSound :=
    Database.Relation.isSound_ofRows [] (List.nodup_singleton _) (by decide)
  have hanswers : Store.Answers db.reader "T".toList "A".toList [] :=
    ⟨by decide, by decide, Database.columnValues_eq hsound rfl hr List.mem_cons_self rfl⟩
  have hentry : Entry db.reader 10 "T".toList ⟨"T".toList, [⟨"A".toList, .text⟩]⟩ :=
    ⟨rfl, ["A".toList], ⟨by decide, Database.columnsOf_eq rfl hr, by decide⟩,
      .cons ⟨rfl, [], hanswers, rfl⟩ .nil⟩
  apply catalog_eq_of_found hopens db.reader_lists (by decide)
  rw [hnames]
  exact .read hentry .nil

/-- The catalog of a database has one table for each companion that can be read, in the order of
the companions, and nothing for any other; one that cannot be read changes nothing about the rest.
What can be read is decided by the engine's answers.  Of an engine that answers for what is in the
database, the companions are the tables whose names end with the suffix, and where names are shown
a table is read exactly if it has a column and all of its columns can be sampled; it then has these
columns in the order of declaration, with the types of their first values that are present.  Of an
engine that passes over line breaks, what is read for a bare name that is not shown is read for its
stem. -/
theorem catalog_exact {settings : Settings} {store : Store} {names : List Text}
    (hlist : store.companions settings.suffix = .ok names)
    (hsize : (settings.sampleSize : Int) < Integer.wordBound) :
    ∃ db ts, store.Opens db ∧ (catalog settings store).outcome = .ok ⟨ts⟩ ∧
      Found (fun m => Entry db settings.sampleSize (baseName settings.suffix m)) names ts ∧
      (∀ front m back, names = front ++ m :: back →
        (∀ t, ¬ Entry db settings.sampleSize (baseName settings.suffix m) t) →
        Found (fun k => Entry db settings.sampleSize (baseName settings.suffix k))
          (front ++ back) ts) ∧
      (∀ state, db.Reflects state →
        names = state.tables.filter (Text.endsWith settings.suffix) ∧
        ∀ m ∈ names, IsShown state (baseName settings.suffix m) → ∀ t,
          Entry db settings.sampleSize (baseName settings.suffix m) t ↔
            Describes db state settings.sampleSize (baseName settings.suffix m) t) ∧
      (db.PassesOverBreaks →
        ∀ n, Sql.isBare n = true → Sql.reservedWords.contains (Sql.stem n) = false →
        (∀ t, Entry db settings.sampleSize n t ↔
          t.name = n ∧ Entry db settings.sampleSize (Sql.stem n) ⟨Sql.stem n, t.columns⟩) ∧
        ∀ base c, Typed db settings.sampleSize base n c ↔
          c.name = n ∧ Typed db settings.sampleSize base (Sql.stem n) ⟨Sql.stem n, c.type⟩) := by
  obtain ⟨db, -, hopens, -, -⟩ := Store.companions_eq_ok_iff.1 hlist
  cases hts : (tables settings store names).outcome with
  | error f =>
    -- a failure of the whole would have no report, but all failures have one
    obtain ⟨hf, m, -, hread⟩ := exists_of_tables_eq_error hts
    obtain ⟨e, rfl⟩ := reports_of_lt hopens hsize m f hread
    exact absurd rfl (hf e)
  | ok ts =>
    have hfound : Found (fun m => Entry db settings.sampleSize (baseName settings.suffix m))
        names ts :=
      (tables_eq_ok_iff.1 hts).2.congr fun m _ t => table_eq_ok_iff hopens hsize
    refine ⟨db, ts, hopens, ?_, hfound, ?_, ?_, ?_⟩
    · rw [outcome_catalog, hlist]
      dsimp only
      rw [hts]
      rfl
    · rintro front m back rfl hnone
      exact hfound.erase hnone
    · intro state hreflects
      refine ⟨?_, fun m _ hshown t => entry_iff_describes hreflects hshown⟩
      exact Except.ok.inj
        (hlist.symm.trans (Store.companions_of_lists hopens hreflects.lists settings.suffix))
    · intro hbreaks n hbare hstem
      exact ⟨fun t => entry_iff_stem hbreaks hbare hstem,
        fun base c => typed_iff_stem hbreaks hbare hstem⟩

/-- A companion without its table is passed over. -/
theorem catalog_exact_missing_base :
    ∃ db, Database.ofObjects [.table "T".toList ["A".toList] [[.text "12".toList]],
        .fullText "T_fts".toList ["A".toList] [], .fullText "G_fts".toList ["A".toList] []]
          = .ok db ∧
      db.reader.Reflects db.state ∧
      (catalog {} (Installed.store "sqlite:///lib.db".toList db)).outcome
        = .ok ⟨[⟨"T".toList, [⟨"A".toList, .integer⟩]⟩]⟩ := by
  obtain ⟨db, hdb⟩ : ∃ db, Database.ofObjects [.table "T".toList ["A".toList] [[.text "12".toList]],
      .fullText "T_fts".toList ["A".toList] [], .fullText "G_fts".toList ["A".toList] []]
        = .ok db := ⟨_, rfl⟩
  have hopens : (Installed.store "sqlite:///lib.db".toList db).Opens db.reader := ⟨_, rfl, rfl⟩
  have hlist : (Installed.store "sqlite:///lib.db".toList db).companions ({} : Settings).suffix
      = .ok ["T_fts".toList, "G_fts".toList] := by
    rw [Store.companions_of_lists hopens db.reader_lists]
    cases hdb
    rfl
  have hreflects : db.reader.Reflects db.state :=
    Database.reader_reflects (Database.reachable_of_ofObjects hdb (by decide))
  have hviews : db.views = [] := by
    cases hdb
    rfl
  have ht : db.relation? "T".toList
      = .ok (some (.ofRows ["A".toList] [[.text "12".toList]])) := by
    rw [Database.relation?_of_views_eq_nil hviews rfl]
    cases hdb
    rfl
  have hcolumns : db.state.columns "T".toList = [("A".toList, [.text "12".toList])] := by
    rw [Database.columns_state_of_relation? ht]
    rfl
  have hgone : db.state.columns "G".toList = [] := by
    have hnone : db.relation? "G".toList = .ok none := by
      rw [Database.relation?_of_views_eq_nil hviews rfl]
      cases hdb
      rfl
    simp only [Database.state, hnone]
  refine ⟨db, hdb, hreflects, ?_⟩
  obtain ⟨_, ts, hopens', hcatalog, hfound, -, hsame, -⟩ := catalog_exact hlist (by decide)
  cases hopens.unique hopens'
  obtain ⟨-, hsame⟩ := hsame db.state hreflects
  have hentry : ∀ t, Entry db.reader 10 "T".toList t ↔
      Describes db.reader db.state 10 "T".toList t := by
    apply hsame "T_fts".toList (by decide)
    refine ⟨by decide, ?_⟩
    show ∀ c ∈ db.state.columns "T".toList, Sql.IsShown c.1
    rw [hcolumns]
    decide
  have hnone : ∀ t, ¬ Entry db.reader 10 "G".toList t := by
    intro t h
    have hshown : IsShown db.state "G".toList := by
      refine ⟨by decide, ?_⟩
      rw [hgone]
      exact List.forall_mem_nil _
    exact ((hsame "G_fts".toList (by decide) hshown t).1 h).1 hgone
  have hdescribed := (hentry _).2 ⟨by rw [hcolumns]; exact List.cons_ne_nil _ _, ?_, rfl⟩
  · cases hfound with
    | skip hskip _ => exact absurd hdescribed (hskip _)
    | read h hrest =>
      obtain ⟨-, -, rfl⟩ := (hentry _).1 h
      cases hrest with
      | read h _ => exact absurd h (hnone _)
      | skip _ hrest =>
        cases hrest
        rw [hcatalog, Database.State.described, hcolumns]
        rfl
  · rw [hcolumns]
    intro c hc
    cases List.mem_singleton.1 hc
    have hsound := Database.isSound_of_relation?
      (Database.reachable_of_ofObjects hdb (by decide)).isSound ht
    exact ⟨_, by decide, by decide,
      Database.columnValues_eq hsound rfl ht List.mem_cons_self rfl⟩

/-- If the companions can be listed, the catalog is missing only for a sample size that the engine
cannot be handed, and then exactly if the engine answers for the first column of the table behind
some companion. -/
theorem catalog_fault_iff {settings : Settings} {store : Store} {names : List Text}
    (hlist : store.companions settings.suffix = .ok names) :
    ∃ db, store.Opens db ∧
      ((∃ c, (catalog settings store).outcome = .ok c) ↔
        (settings.sampleSize : Int) < Integer.wordBound ∨
          ∀ m ∈ names, ¬ AnswersFirst db (baseName settings.suffix m)) ∧
      ∀ f, (catalog settings store).outcome = .error f ↔
        f = .limitBeyondEngine ∧ Integer.wordBound ≤ (settings.sampleSize : Int) ∧
          ∃ m ∈ names, AnswersFirst db (baseName settings.suffix m) := by
  obtain ⟨db, -, hopens, -, -⟩ := Store.companions_eq_ok_iff.1 hlist
  have hfaults : ∀ f, (catalog settings store).outcome = .error f ↔
      f = .limitBeyondEngine ∧ Integer.wordBound ≤ (settings.sampleSize : Int) ∧
        ∃ m ∈ names, AnswersFirst db (baseName settings.suffix m) := by
    intro f
    rw [outcome_catalog, hlist, ← tables_eq_error_iff hopens]
    dsimp only
    cases (tables settings store names).outcome with
    | ok ts => exact iff_of_false nofun nofun
    | error g =>
      show Except.error g = _ ↔ _
      rw [Except.error.injEq, Except.error.injEq]
  refine ⟨db, hopens, ⟨?_, ?_⟩, hfaults⟩
  · rintro ⟨c, hc⟩
    by_cases hlt : (settings.sampleSize : Int) < Integer.wordBound
    · exact .inl hlt
    · right
      intro m hm hfirst
      have hfault := (hfaults .limitBeyondEngine).2 ⟨rfl, Int.not_lt.1 hlt, m, hm, hfirst⟩
      rw [hc] at hfault
      cases hfault
  · intro h
    cases hc : (catalog settings store).outcome with
    | ok c => exact ⟨c, rfl⟩
    | error f =>
      obtain ⟨-, hsize, m, hm, hfirst⟩ := (hfaults f).1 hc
      rcases h with hlt | hnone
      · exact absurd hlt (Int.not_lt.2 hsize)
      · exact absurd hfirst (hnone m hm)

/-- One column that could be sampled is enough for such a sample size to end discovery. -/
theorem catalog_fault_iff_one_column :
    (catalog { sampleSize := 9223372036854775808 } (Installed.store "sqlite:///lib.db".toList
      ⟨[.table "T".toList ["A".toList] [], .table "T_fts".toList ["A".toList] []]⟩)).outcome
        = .error .limitBeyondEngine := by
  generalize hdb : Database.mk [.table "T".toList ["A".toList] [],
    .table "T_fts".toList ["A".toList] []] = db
  have hopens : (Installed.store "sqlite:///lib.db".toList db).Opens db.reader := ⟨_, rfl, rfl⟩
  have hlist : (Installed.store "sqlite:///lib.db".toList db).companions
      ({ sampleSize := 9223372036854775808 } : Settings).suffix = .ok ["T_fts".toList] := by
    rw [Store.companions_of_lists hopens db.reader_lists, ← hdb]
    rfl
  obtain ⟨_, hopens', -, hfaults⟩ := catalog_fault_iff hlist
  cases hopens.unique hopens'
  have hr : db.relation? "T".toList = .ok (some (.ofRows ["A".toList] [])) := by
    rw [← hdb]
    exact Database.relation?_of_views_eq_nil rfl rfl
  have hsound : (Database.Relation.ofRows ["A".toList] []).IsSound :=
    Database.Relation.isSound_ofRows [] (List.nodup_singleton _) (by decide)
  have hlisted : Listed db.reader "T".toList ["A".toList] :=
    ⟨by decide, Database.columnsOf_eq rfl hr, by decide⟩
  have hanswers : Store.Answers db.reader "T".toList "A".toList [] :=
    ⟨by decide, by decide, Database.columnValues_eq hsound rfl hr List.mem_cons_self rfl⟩
  exact (hfaults _).2 ⟨rfl, by decide, "T_fts".toList, by decide, _, _, _, hlisted, hanswers⟩

end PlainSearch.Discovery
