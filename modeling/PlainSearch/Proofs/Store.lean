/-
  Proofs/Store.lean --- what a store reads from a database.

  WHAT THIS FILE IS FOR.  A store that `Opens` a database asks the engine about it.
  Of the answers to the store's questions this file says when they come, and what
  they are:

      companions    if the engine lists any tables by pattern, and then they are those
                    of them whose names end with the suffix (`companions_eq_ok_iff`);
                    of the tables of the database that is all (`companions_exact`);
      columns       if the engine has any (`columns_eq_ok_iff`);
      samples       if the engine has the values, and takes the limit
                    (`sample_eq_ok_iff`).

  Once a database is open, every refusal of the engine is a failure with a report,
  whatever was asked (`exists_search_of_asking`).  The one thing that is not is a limit
  that the engine cannot be handed, which comes to light only where the engine
  would have answered (`sample_eq_error_iff`).
-/
import PlainSearch.Installed
import PlainSearch.Proofs.Database.Reader
import PlainSearch.Store

set_option autoImplicit false

namespace PlainSearch

/-! ## Null characters in statements -/

theorem Text.mem_substitute {a b : Char} {w t : Text} :
    b ∈ Text.substitute a w t ↔ (a ∈ t ∧ b ∈ w) ∨ (b ≠ a ∧ b ∈ t) := by
  unfold Text.substitute
  rw [List.mem_flatMap]
  constructor
  · rintro ⟨c, hc, hb⟩
    split at hb
    · next heq =>
      subst heq
      exact .inl ⟨hc, hb⟩
    · next hne =>
      rw [List.mem_singleton] at hb
      subst hb
      exact .inr ⟨hne, hc⟩
  · rintro (⟨ha, hb⟩ | ⟨hne, hb⟩)
    · exact ⟨a, ha, by rwa [if_pos rfl]⟩
    · exact ⟨b, hb, by rw [if_neg hne]; exact List.mem_singleton_self b⟩

/-- A name brings null characters into a statement exactly if it has some. -/
theorem Sql.null_mem_identifier_iff {name : Text} :
    '\x00' ∈ Sql.identifier name ↔ '\x00' ∈ name := by
  unfold Sql.identifier
  split
  · rfl
  · simp [Sql.quotedName, Text.mem_substitute]

namespace Store

theorem null_mem_columnsStatement_iff {table : Text} :
    '\x00' ∈ columnsStatement table ↔ '\x00' ∈ table := by
  unfold columnsStatement
  rw [List.mem_append, List.mem_append, Sql.null_mem_identifier_iff]
  have hfront : '\x00' ∉ "PRAGMA table_info(".toList := by decide
  have hback : '\x00' ∉ [')'] := by decide
  simp only [hfront, hback, false_or, or_false]

theorem null_mem_sampleStatement_iff {table column : Text} :
    '\x00' ∈ sampleStatement table column ↔ '\x00' ∈ table ∨ '\x00' ∈ column := by
  have hselect : '\x00' ∉ "SELECT ".toList := by decide
  have hfrom : '\x00' ∉ " FROM ".toList := by decide
  have hwhere : '\x00' ∉ " WHERE ".toList := by decide
  have hlimit : '\x00' ∉ " IS NOT NULL LIMIT ?".toList := by decide
  unfold sampleStatement
  dsimp only
  rw [List.mem_append, List.mem_append, List.mem_append, List.mem_append, List.mem_append,
    List.mem_append, Sql.null_mem_identifier_iff, Sql.null_mem_identifier_iff]
  constructor
  · rintro ((((((h | h) | h) | h) | h) | h) | h)
    · exact absurd h hselect
    · exact .inr h
    · exact absurd h hfrom
    · exact .inl h
    · exact absurd h hwhere
    · exact .inr h
    · exact absurd h hlimit
  · rintro (h | h)
    · exact .inl (.inl (.inl (.inr h)))
    · exact .inl (.inr h)

/-! ## Asking -/

/-- The engine of a store can be made, and what it finds is a database. -/
def Opens (s : Store) (db : Reader) : Prop :=
  ∃ e, s.engine = .ok e ∧ s.library.find e = .database db

variable {s : Store} {db : Reader}

/-- A store opens one database. -/
theorem Opens.unique {db' : Reader} (h : s.Opens db) (h' : s.Opens db') : db = db' := by
  obtain ⟨e, he, hdb⟩ := h
  obtain ⟨e', he', hdb'⟩ := h'
  cases he.symm.trans he'
  exact Contents.database.inj (hdb.symm.trans hdb')

section

variable {α : Type} {attempt statement reported : Text} {parameters : Option Text}
  {question : Reader → Except EngineError α}

theorem asking_of_opens (h : s.Opens db) :
    s.asking attempt statement parameters reported question =
      if '\x00' ∈ statement then
        .error (.search (refusal attempt .nullCharacter statement parameters reported))
      else match question db with
        | .ok a => .ok a
        | .error e => .error (.search (refusal attempt e statement parameters reported)) := by
  obtain ⟨e, he, hdb⟩ := h
  unfold asking
  rw [he]
  dsimp only
  rw [hdb]
  dsimp only
  by_cases hnull : '\x00' ∈ statement
  · rw [if_pos hnull, if_pos (List.contains_iff_mem.2 hnull)]
  · refine ((if_neg (mt List.contains_iff_mem.1 hnull)).trans ?_).trans (if_neg hnull).symm
    cases question db <;> rfl

theorem asking_eq_ok_iff (h : s.Opens db) {a : α} :
    s.asking attempt statement parameters reported question = .ok a ↔
      '\x00' ∉ statement ∧ question db = .ok a := by
  rw [asking_of_opens h]
  by_cases hnull : '\x00' ∈ statement
  · simp [hnull]
  · rw [if_neg hnull]
    cases question db <;> simp [hnull]

/-- Whatever the engine refuses is a failure with a report. -/
theorem exists_search_of_asking (h : s.Opens db) {f : Fault}
    (hf : s.asking attempt statement parameters reported question = .error f) :
    ∃ e, f = .search e := by
  rw [asking_of_opens h] at hf
  split at hf
  · cases hf
    exact ⟨_, rfl⟩
  · split at hf
    · cases hf
    · cases hf
      exact ⟨_, rfl⟩

theorem exists_opens_of_asking {a : α}
    (h : s.asking attempt statement parameters reported question = .ok a) :
    ∃ db, s.Opens db := by
  unfold asking at h
  split at h
  · cases h
  · next e he =>
    split at h
    · cases h
    · cases h
    · cases h
    · next db hdb => exact ⟨db, e, he, hdb⟩

end

/-! ## Answers -/

theorem companions_eq_ok_iff {suffix : Text} {names : List Text} :
    s.companions suffix = .ok names ↔
      ∃ db listed, s.Opens db ∧ db.tablesLike (Sql.Like.endingWith suffix) = .ok listed ∧
        names = listed.filter (Text.endsWith suffix) := by
  simp only [companions]
  constructor
  · intro h
    split at h
    · cases h
    · next listed hlisted =>
      cases h
      obtain ⟨db, hopens⟩ := exists_opens_of_asking hlisted
      exact ⟨db, listed, hopens, ((asking_eq_ok_iff hopens).1 hlisted).2, rfl⟩
  · rintro ⟨db, listed, hopens, hlisted, rfl⟩
    have hstatement : '\x00' ∉ listStatement ['?'] := by decide
    rw [asking_of_opens hopens, if_neg hstatement, hlisted]

/-- Of an engine that lists the tables of a database, the companions are those whose names end with
the suffix, in their order. -/
theorem companions_of_lists (h : s.Opens db) {tables : List Text} (hlists : db.Lists tables)
    (suffix : Text) : s.companions suffix = .ok (tables.filter (Text.endsWith suffix)) :=
  companions_eq_ok_iff.2
    ⟨db, _, h, hlists _, (Reader.filter_holds_endingWith tables suffix).symm⟩

/-- Object by object: of an engine that lists the objects that are tables, the companions are the
tables that have the suffix at the end of their name, in the order of the objects.  The engine's
pattern lets each of them through, whatever characters the suffix has.  What else it lets through
differs from them in the case of ASCII letters alone: a name has the form of the pattern exactly if
it ends with the suffix up to that case, and the engine holds exactly those names to have it. -/
theorem companions_exact {objects : List Database.Object} (h : s.Opens db)
    (hlists : db.Lists ((objects.filter Database.Object.isTable).map Database.Object.name))
    (suffix : Text) :
    s.companions suffix = .ok ((objects.filter fun o =>
        o.isTable && decide (suffix <:+ o.name)).map Database.Object.name) ∧
      (∃ listed, db.tablesLike (Sql.Like.endingWith suffix) = .ok listed ∧
        ∀ o ∈ objects, o.isTable = true → suffix <:+ o.name → o.name ∈ listed) ∧
      (∀ name, Sql.Like.holds (Sql.Like.endingWith suffix) name = true ↔
        Sql.Like.Matches (Sql.Like.endingWith suffix) name) ∧
      ∀ name, Sql.Like.Matches (Sql.Like.endingWith suffix) name ↔
        ∃ front back, name = front ++ back ∧
          back.map Text.asciiLowerChar = suffix.map Text.asciiLowerChar := by
  have hends (name : Text) : Text.endsWith suffix name = decide (suffix <:+ name) := by
    rw [Bool.eq_iff_iff, Text.endsWith_iff, decide_eq_true_iff]
    exact exists_congr fun _ => eq_comm
  refine ⟨?_, ⟨_, hlists _, ?_⟩, fun _ => Sql.Like.holds_iff_matches,
    fun _ => Sql.Like.matches_endingWith_iff⟩
  · rw [companions_of_lists h hlists, List.filter_map, List.filter_filter]
    refine congrArg (fun os => Except.ok (List.map Database.Object.name os)) ?_
    refine List.filter_congr fun o _ => ?_
    rw [Function.comp_apply, hends, Bool.and_comm]
  · intro o ho htable hsuffix
    have hlisted : o.name ∈ (objects.filter Database.Object.isTable).map Database.Object.name :=
      List.mem_map_of_mem (List.mem_filter.2 ⟨ho, htable⟩)
    have hname : Text.endsWith suffix o.name = true := by
      rw [hends, decide_eq_true_iff]
      exact hsuffix
    exact List.mem_filter.2 ⟨hlisted, Sql.Like.holds_endingWith_of_endsWith hname⟩

/-- A suffix with all three special characters in it. -/
theorem companions_exact_of_wildcards :
    (Installed.store "sqlite:///lib.db".toList ⟨[.table "x_F%\\".toList [] [],
        .table "y_f%\\".toList [] [], .table "z1F%\\".toList [] [],
        .view "v_F%\\".toList "x_F%\\".toList [], .table "_F%\\".toList [] []]⟩).companions
        "_F%\\".toList = .ok ["x_F%\\".toList, "_F%\\".toList] ∧
      Sql.Like.Matches (Sql.Like.endingWith "_F%\\".toList) "y_f%\\".toList ∧
      ¬ Sql.Like.Matches (Sql.Like.endingWith "_F%\\".toList) "z1F%\\".toList := by
  have hopens (db : Database) :
      (Installed.store "sqlite:///lib.db".toList db).Opens db.reader := ⟨_, rfl, rfl⟩
  obtain ⟨hlist, -, hholds, hpattern⟩ :=
    companions_exact (hopens _) (Database.reader_lists _) "_F%\\".toList
  refine ⟨hlist, (hpattern _).2 ⟨"y".toList, "_f%\\".toList, rfl, by decide⟩, fun h => ?_⟩
  exact absurd ((hholds _).2 h) (by decide)

theorem columns_eq_ok_iff (h : s.Opens db) {table : Text} {cs : List Text} :
    s.columns table = .ok cs ↔ '\x00' ∉ table ∧ db.columnsOf table = .ok cs ∧ cs ≠ [] := by
  simp only [columns]
  constructor
  · intro hcolumns
    split at hcolumns
    · cases hcolumns
    · cases hcolumns
    · next listed hne hlisted =>
      cases hcolumns
      obtain ⟨hnull, hanswer⟩ := (asking_eq_ok_iff h).1 hlisted
      exact ⟨mt null_mem_columnsStatement_iff.2 hnull, hanswer, hne⟩
  · rintro ⟨hnull, hanswer, hne⟩
    rw [asking_of_opens h, if_neg (mt null_mem_columnsStatement_iff.1 hnull), hanswer]
    cases cs with
    | nil => exact absurd rfl hne
    | cons c cs => rfl

/-- A failure to list columns has a report. -/
theorem exists_search_of_columns (h : s.Opens db) {table : Text} {f : Fault}
    (hf : s.columns table = .error f) : ∃ e, f = .search e := by
  simp only [columns] at hf
  split at hf
  · next hlisted =>
    cases hf
    exact exists_search_of_asking h hlisted
  · cases hf
    exact ⟨_, rfl⟩
  · cases hf

/-- The engine answers a question for the values of a column. -/
def Answers (db : Reader) (table column : Text) (values : List Datum) : Prop :=
  '\x00' ∉ table ∧ '\x00' ∉ column ∧ db.columnValues table column = .ok values

theorem asking_columnValues_iff (h : s.Opens db) {table column attempt reported : Text}
    {parameters : Option Text} {values : List Datum} :
    s.asking attempt (sampleStatement table column) parameters reported
        (·.columnValues table column) = .ok values ↔ Answers db table column values := by
  rw [asking_eq_ok_iff h, null_mem_sampleStatement_iff, not_or, and_assoc]
  rfl

theorem sample_eq_ok_iff (h : s.Opens db) {table column : Text} {limit : Int}
    {samples : List Text} :
    s.sample table column limit = .ok samples ↔
      Database.fitsEngine limit = true ∧ ∃ values, Answers db table column values ∧
        samples = (Database.takeRows limit values).map Datum.shown := by
  simp only [sample]
  constructor
  · intro hsample
    split at hsample
    · cases hsample
    · next values hvalues =>
      split at hsample
      · next hfits =>
        cases hsample
        exact ⟨hfits, values, (asking_columnValues_iff h).1 hvalues, rfl⟩
      · cases hsample
  · rintro ⟨hfits, values, hvalues, rfl⟩
    rw [(asking_columnValues_iff h).2 hvalues]
    exact if_pos hfits

/-- A failure to sample that has no report is a limit that the engine cannot be handed, in a
question that it would answer. -/
theorem sample_eq_error_iff (h : s.Opens db) {table column : Text} {limit : Int} {f : Fault}
    (hf : ∀ e, f ≠ .search e) :
    s.sample table column limit = .error f ↔
      f = .limitBeyondEngine ∧ Database.fitsEngine limit = false ∧
        ∃ values, Answers db table column values := by
  simp only [sample]
  constructor
  · intro hsample
    split at hsample
    · next hrefused =>
      cases hsample
      obtain ⟨e, rfl⟩ := exists_search_of_asking h hrefused
      exact absurd rfl (hf e)
    · next values hvalues =>
      split at hsample
      · cases hsample
      · next hfits =>
        cases hsample
        exact ⟨rfl, Bool.eq_false_iff.2 hfits, values, (asking_columnValues_iff h).1 hvalues⟩
  · rintro ⟨rfl, hfits, values, hvalues⟩
    rw [(asking_columnValues_iff h).2 hvalues]
    exact if_neg (Bool.eq_false_iff.1 hfits)

end Store
end PlainSearch
