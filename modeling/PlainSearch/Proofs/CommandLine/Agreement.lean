/-
  Proofs/CommandLine/Agreement.lean --- the three ways to ask agree.

  WHAT THIS FILE IS FOR.  A request may be asked of the library, asked by the command `ask`,
  or stated by the command `translate`.  Each goes through discovery and planning by
  itself, and each makes something of its own of what comes out.  Yet

      asked_eq         what the command `ask` does is what the library does, entry by
                       entry, with the report made a result at the end;
      translated_eq    what `translate` does is what the library does before it runs
                       anything, with the statement made a result.

  Hence one and the same statement is told by `translate` and handed to the engine by
  the other two; what is not understood by one is not understood by any; and the
  reports and failures of the library are those that `ask` tells
  (`ask_agrees_with_translate`).
-/
import PlainSearch.Proofs.CommandLine.Opening
import PlainSearch.Proofs.CommandLine.Outcome
import PlainSearch.Proofs.Search

set_option autoImplicit false

namespace PlainSearch.CommandLine

/-! ## One computation -/

/-- The result that asking comes to. -/
def Result.ofReport? : Option Report → Result
  | none => .notUnderstood
  | some r => .report r

/-- The result that stating a request comes to. -/
def Result.ofStatement? (query : Text) : Option Text → Result
  | none => .notUnderstood
  | some sql => .statement query sql

variable {settings : Settings} {answer : Store.Answer} {q : Text} {store : Store}

theorem translated_eq :
    translated settings q store
      = Result.ofStatement? q <$> Search.statement? settings store none q := by
  unfold translated
  rw [Search.statement?, Traced.map_bind_eq]
  refine bind_congr fun catalog => ?_
  rw [Traced.map_eq_bind]
  refine bind_congr fun found => ?_
  cases found <;> rfl

theorem asked_eq :
    asked settings answer q store
      = Result.ofReport? <$> Search.ask settings store none answer q := by
  unfold asked
  rw [Search.ask, Search.statement?, Traced.map_bind_eq, Traced.bind_assoc_eq]
  refine bind_congr fun catalog => ?_
  refine bind_congr fun found => ?_
  cases found with
  | none => rfl
  | some sql =>
    show _ = Result.ofReport? <$> (Search.execute store answer q sql >>= fun r => pure (some r))
    rw [Traced.map_bind_eq]
    rfl

/-! ## What is told -/

section

variable {α : Type} {o : Options} {f : Option α → Result} {x : Traced (Option α)}

theorem outcome_of_tells_map {r : Result} (hpretty : o.pretty = false)
    (h : (conclude o (f <$> x)).Tells r) :
    ∃ found, x.outcome = .ok found ∧ (conclude o (f <$> x)).Tells (f found) := by
  obtain ⟨r', hr', htells⟩ := outcome_of_tells hpretty h
  obtain ⟨found, hfound, rfl⟩ := Traced.outcome_map_eq_ok_iff.1 hr'
  exact ⟨found, hfound, htells⟩

/-- Nothing is understood exactly if that is told, where all else is told with the request. -/
theorem tells_notUnderstood_iff (hpretty : o.pretty = false) (hnone : f none = .notUnderstood)
    (hsome : ∀ a, ∃ v fs, (f (some a)).toDatum = .record (("query".toList, v) :: fs)) :
    (conclude o (f <$> x)).Tells .notUnderstood ↔ x.outcome = .ok none := by
  constructor
  · intro h
    obtain ⟨found, hfound, htells⟩ := outcome_of_tells_map hpretty h
    cases found with
    | none => exact hfound
    | some a =>
      obtain ⟨v, fs, ha⟩ := hsome a
      exact absurd h (htells.not_notUnderstood ha)
  · intro h
    exact tells_conclude hpretty (Traced.outcome_map_eq_ok_iff.2 ⟨none, h, hnone⟩)

theorem tells_statement_iff {y : Traced (Option Text)} {sql : Text} (hpretty : o.pretty = false) :
    (conclude o (Result.ofStatement? q <$> y)).Tells (.statement q sql) ↔
      y.outcome = .ok (some sql) := by
  constructor
  · intro h
    obtain ⟨found, hfound, htells⟩ := outcome_of_tells_map hpretty h
    cases found with
    | none => exact absurd htells (h.not_notUnderstood rfl)
    | some sql' => rw [hfound, (h.statement_inj htells).2]
  · intro h
    exact tells_conclude hpretty (Traced.outcome_map_eq_ok_iff.2 ⟨_, h, rfl⟩)

end

/-! ## Agreement -/

/-- Asking the library, asking by command and stating by command agree.  For a request that says
something and a database to open: the command `ask` leaves the library's entries.  A statement is
told by `translate` exactly if it is what the library hands to the engine, and all that it hands
over.  Not to understand is one answer for all three.  The library reports exactly where the
engine gives rows for a statement that it was handed, each with a value for every column: those
rows, counted and in their order, and `ask` tells the report.  The library's failures are told by `ask`, and those that came before any
statement was handed over by `translate`. -/
theorem ask_agrees_with_translate {settings : Settings} {s : Surroundings} {answer : Store.Answer}
    {o : Options} {c : Context} {database query : Option Text} {q url : Text}
    (hpretty : o.pretty = false)
    (hquery : Command.spoken? (Command.places s.environment database query).2 = some q)
    (hurl : locate s (Command.places s.environment database query).1 = .ok url) :
    let library := Search.ask settings (s.store url) none answer q
    let ask := ((Command.ask database query).run s answer o settings c).1
    let translate := ((Command.translate database query).run s answer o settings c).1
    ask = conclude o (asked settings answer q (s.store url)) ∧
    (asked settings answer q (s.store url)).journal = library.journal ∧
    (∀ sql, translate.Tells (.statement q sql) ↔
      ∀ sql', Store.executing sql' ∈ library.journal ↔ sql' = sql) ∧
    (library.outcome = .ok none ↔ ask.Tells .notUnderstood) ∧
    (library.outcome = .ok none ↔ translate.Tells .notUnderstood) ∧
    (∀ r, library.outcome = .ok (some r) ↔
      ∃ sql columns rows, Store.executing sql ∈ library.journal ∧
        answer sql = .rows columns rows ∧ (∀ row ∈ rows, row.length = columns.length) ∧
        r = ⟨q, sql, rows.length,
          rows.map fun row => Fields.ofPairs columns (row.map Database.stored)⟩) ∧
    (∀ r, library.outcome = .ok (some r) → ask.Tells (.report r)) ∧
    (∀ f, library.outcome = .error f → ask.TellsFailure f) ∧
    ∀ f, library.outcome = .error f → (∀ sql, Store.executing sql ∉ library.journal) →
      translate.TellsFailure f := by
  intro library ask translate
  have hran : ask = conclude o (asked settings answer q (s.store url)) :=
    onRequest_of_ok hquery hurl
  have hask : ask = conclude o (Result.ofReport? <$> library) := by
    rw [hran, asked_eq]
  have htranslate : translate = conclude o (Result.ofStatement? q <$>
      Search.statement? settings (s.store url) none q) := by
    rw [← translated_eq]
    exact onRequest_of_ok hquery hurl
  refine ⟨hran, ?_, fun sql => ?_, ?_, ?_, fun r => ?_, fun r hr => ?_, fun f hf => ?_,
    fun f hf hnone => ?_⟩
  · rw [asked_eq, Traced.journal_map]
  · rw [htranslate, tells_statement_iff hpretty]
    constructor
    · intro hsql sql'
      rw [Search.executing_mem_ask_iff, hsql]
      simp [eq_comm]
    · intro hall
      exact Search.executing_mem_ask_iff.1 ((hall sql).2 rfl)
  · rw [hask, tells_notUnderstood_iff hpretty rfl fun r => ⟨_, _, rfl⟩]
  · rw [htranslate, tells_notUnderstood_iff hpretty rfl fun sql => ⟨_, _, rfl⟩]
    exact Search.ask_eq_none_iff
  · simp only [library, Search.executing_mem_ask_iff]
    exact Search.ask_eq_some_iff
  · rw [hask]
    exact tells_conclude hpretty (Traced.outcome_map_eq_ok_iff.2 ⟨_, hr, rfl⟩)
  · rw [hask]
    exact tellsFailure_conclude hpretty (Traced.outcome_map_eq_error_iff.2 hf)
  · rw [htranslate]
    exact tellsFailure_conclude hpretty
      (Traced.outcome_map_eq_error_iff.2 (Search.statement?_eq_error_of_ask hf hnone))

/-- A request for the one table of a database, of which a row is found. -/
theorem ask_agrees_with_translate_one_row :
    let s : Surroundings := Installed.surroundings (fun _ => none) ⟨none, fun _ => none⟩
      (fun _ => .file) fun _ _ => Installed.contents
        ⟨[.table "T".toList ["A".toList] [], .table "T_fts".toList ["A".toList] []]⟩
    let answer : Store.Answer := fun _ =>
      .rows ["rowid".toList, "A".toList] [[.int 1, .text "cats".toList]]
    let database := some "lib.db".toList
    let query := some "T about cats".toList
    let sql := "SELECT rowid, * FROM T_fts WHERE T_fts MATCH 'cats'".toList
    locate s (Command.places s.environment database query).1 = .ok "sqlite:///lib.db".toList ∧
      ((Command.translate database query).run s answer {} {} {}).1.Tells
        (.statement "T about cats".toList sql) ∧
      ((Command.ask database query).run s answer {} {} {}).1.Tells
        (.report ⟨"T about cats".toList, sql, 1,
          [[("rowid".toList, .int 1), ("A".toList, .text "cats".toList)]]⟩) := by
  intro s answer database query sql
  have hurl : locate s (Command.places s.environment database query).1
      = .ok "sqlite:///lib.db".toList := rfl
  obtain ⟨-, -, hstatement, -, -, hreport, htells, -⟩ :=
    @ask_agrees_with_translate {} s answer {} {} database query _ _ rfl rfl hurl
  have hopens : (s.store "sqlite:///lib.db".toList).Opens _ :=
    opens_fileUrl rfl .dialect (by decide) (by decide) (by decide) ⟨by decide, by decide⟩ rfl
  have hfound : (Search.statement? {} (s.store "sqlite:///lib.db".toList) none
      "T about cats".toList).outcome = .ok (some sql) :=
    Traced.outcome_bind_eq_ok_iff.2 ⟨_, Discovery.catalog_of_one_table hopens, rfl⟩
  have hhanded : ∀ sql', Store.executing sql' ∈ (Search.ask {} (s.store "sqlite:///lib.db".toList)
      none answer "T about cats".toList).journal ↔ sql' = sql := by
    intro sql'
    rw [Search.executing_mem_ask_iff, hfound]
    simp [eq_comm]
  exact ⟨hurl, (hstatement sql).2 hhanded,
    htells _ ((hreport _).2 ⟨sql, _, _, (hhanded sql).2 rfl, rfl, by decide, rfl⟩)⟩

end PlainSearch.CommandLine
