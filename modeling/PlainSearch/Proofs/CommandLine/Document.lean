/-
  Proofs/CommandLine/Document.lean --- what a reader of documents gets from a call of `ask`.

  WHAT THIS FILE IS FOR.  A call that does not write for a screen prints one document and a
  line break.  What can be read back from that is what the document tells of the result or
  of the failure (`Outcome.Tells.read?_stdout`, `Outcome.TellsFailure.read?_stdout`).

  THE RESULT.  For a request with a statement, and for all rows that an engine can give, with
  a cell for every column, which is nothing, an integer, a double, a text or bytes
  (`Datum.IsCell`), the call ends with code 0, and of the report is read back

      the request, the statement, the number of rows and the rows, as they are but for
      bytes, which come back as their quoted text,  if no cell is an infinity;

      nothing at all,  if a cell is one              (`ask_document_tells_report`).
-/
import PlainSearch.Proofs.CommandLine.Agreement
import PlainSearch.Proofs.CommandLine.Ending
import PlainSearch.Proofs.CommandLine.Opening
import PlainSearch.Proofs.Json.Document

set_option autoImplicit false

namespace PlainSearch

/-! ## Cells -/

namespace Datum

/-- The value is one that an engine can give for a cell.  There is no not-a-number in a
database. -/
inductive IsCell : Datum → Prop
  | null : IsCell .null
  | int (n : Int) : IsCell (.int n)
  | real {x : Double} (h : x ≠ .nan) : IsCell (.real x)
  | text (t : Text) : IsCell (.text t)
  | bytes (bs : List UInt8) : IsCell (.bytes bs)

/-- The value is positive or negative infinity. -/
def IsInfinity (v : Datum) : Prop := ∃ negative, v = .real (.infinite negative)

variable {v : Datum}

theorem IsCell.stored_eq (h : v.IsCell) : Database.stored v = v := by
  cases h with
  | null => rfl
  | int n => rfl
  | @real x h =>
    cases x with
    | nan => exact absurd rfl h
    | infinite negative => rfl
    | finite negative e f => rfl
  | text t => rfl
  | bytes bs => rfl

theorem IsCell.told?_eq_some (h : v.IsCell) (hfinite : ¬ v.IsInfinity) :
    Json.told? v = some (Json.toldCell v) := by
  cases h with
  | null => rfl
  | int n => rfl
  | @real x h =>
    cases x with
    | nan => exact absurd rfl h
    | infinite negative => exact absurd ⟨negative, rfl⟩ hfinite
    | finite negative e f => rfl
  | text t => rfl
  | bytes bs => rfl

theorem IsInfinity.told?_eq_none (h : v.IsInfinity) : Json.told? v = none := by
  obtain ⟨negative, rfl⟩ := h
  rfl

end Datum

namespace Fields

theorem mem_put {fs : Fields} {name : Text} {v : Datum} {f : Text × Datum}
    (h : f ∈ put fs name v) : f = (name, v) ∨ f ∈ fs := by
  induction fs with
  | nil => exact .inl (List.mem_singleton.1 h)
  | cons g fs ih =>
    rw [put] at h
    split at h
    · rcases List.mem_cons.1 h with h | h
      · exact .inl h
      · exact .inr (List.mem_cons_of_mem g h)
    · rcases List.mem_cons.1 h with h | h
      · exact .inr (h ▸ List.mem_cons_self)
      · exact (ih h).imp_right (List.mem_cons_of_mem g)

/-- The values of a record come from the row that it was made of. -/
theorem snd_mem_of_mem_ofPairs {names : List Text} {values : List Datum} {f : Text × Datum}
    (h : f ∈ ofPairs names values) : f.2 ∈ values := by
  have hfold : ∀ (pairs : List (Text × Datum)) (fs : Fields),
      f ∈ pairs.foldl (fun fs p => put fs p.1 p.2) fs → f ∈ fs ∨ f ∈ pairs := by
    intro pairs
    induction pairs with
    | nil => exact fun fs hf => .inl hf
    | cons p pairs ih =>
      intro fs hf
      rcases ih _ hf with hput | hpairs
      · rcases mem_put hput with rfl | hfs
        · exact .inr List.mem_cons_self
        · exact .inl hfs
      · exact .inr (List.mem_cons_of_mem p hpairs)
  rcases hfold _ [] h with hnil | hzip
  · cases hnil
  · exact (List.of_mem_zip hzip).2

end Fields

/-! ## Reports -/

namespace Report

/-- What is told of a row without infinities. -/
def toldRow (fs : Fields) : Datum := .record (fs.map fun f => (f.1, Json.toldCell f.2))

/-- What is told of a report without infinities. -/
def toldDatum (r : Report) : Datum :=
  .record [("query".toList, .text r.query), ("sql".toList, .text r.sql),
    ("count".toList, .int r.count), ("rows".toList, .list (r.rows.map toldRow))]

/-- Every value in a report is a cell. -/
def HasCells (r : Report) : Prop := ∀ fs ∈ r.rows, ∀ f ∈ fs, f.2.IsCell

/-- There is an infinity in a report. -/
def HasInfinity (r : Report) : Prop := ∃ fs ∈ r.rows, ∃ f ∈ fs, f.2.IsInfinity

variable {r : Report}

theorem told?_eq_bind (r : Report) :
    Json.told? r.toDatum = (Json.toldItems? (r.rows.map .record)).map fun rows =>
      .record [("query".toList, .text r.query), ("sql".toList, .text r.sql),
        ("count".toList, .int r.count), ("rows".toList, .list rows)] := by
  simp only [toDatum, Json.told?, Json.toldFields?, Option.bind_some]
  cases Json.toldItems? (r.rows.map .record) <;> rfl

theorem told?_eq_some (hcells : r.HasCells) (hfinite : ¬ r.HasInfinity) :
    Json.told? r.toDatum = some r.toldDatum := by
  have hrow : ∀ fs ∈ r.rows, Json.told? (.record fs) = some (toldRow fs) := by
    intro fs hfs
    have hfields : Json.toldFields? fs = some (fs.map fun f => (f.1, Json.toldCell f.2)) :=
      Json.toldFields?_eq_some fun f hf =>
        (hcells fs hfs f hf).told?_eq_some fun hinf => hfinite ⟨fs, hfs, f, hf, hinf⟩
    rw [Json.told?, hfields]
    rfl
  rw [told?_eq_bind, Json.toldItems?_map_eq_some hrow]
  rfl

theorem told?_eq_none (h : r.HasInfinity) : Json.told? r.toDatum = none := by
  obtain ⟨fs, hfs, f, hf, hinf⟩ := h
  have hrow : Json.told? (.record fs) = none := by
    rw [Json.told?, Json.toldFields?_eq_none hf hinf.told?_eq_none]
    rfl
  rw [told?_eq_bind, Json.toldItems?_eq_none (List.mem_map_of_mem hfs) hrow]
  rfl

end Report

/-! ## Calls -/

namespace CommandLine

namespace Outcome

variable {x : Outcome}

theorem isGap_of_mem_newline : ∀ c ∈ ['\n'], Json.isGap c = true :=
  List.forall_mem_singleton.2 (by decide)

/-- What is read back from a call that tells a result is what its document tells. -/
theorem Tells.read?_stdout {r : Result} (h : x.Tells r) :
    Json.read? x.stdout = Json.told? r.toDatum := by
  rw [h.stdout]
  exact Json.read?_document _ isGap_of_mem_newline

theorem TellsFailure.read?_stdout {f : Fault} (h : x.TellsFailure f) :
    Json.read? x.stdout = Json.told? f.report := by
  rw [h.stdout]
  exact Json.read?_document _ isGap_of_mem_newline

end Outcome

section

variable {s : Surroundings} {o : Options} {args : List Text} {database query : Option Text}
  {given : Settings} {q url sql : Text} {answer : Store.Answer} {columns : List Text}
  {rows : List Database.Row}

/-- A call of `ask` tells the report of the rows that the engine gives for the statement. -/
theorem tells_report (h : IsCallOf s args o (.ask database query)) (hpretty : o.pretty = false)
    (hsettings : settings s o = .ok given)
    (hquery : Command.spoken? (Command.places s.environment database query).2 = some q)
    (hurl : locate s (Command.places s.environment database query).1 = .ok url)
    (hsql : (Search.statement? given (s.store url) none q).outcome = .ok (some sql))
    (hreply : answer sql = .rows columns rows)
    (heven : ∀ row ∈ rows, row.length = columns.length) :
    (call s answer args).Tells (.report (Search.reportOf q sql columns rows)) := by
  have hwork : Starts s answer o (.ask database query) (asked given answer q) :=
    ⟨given, hsettings, .ask hquery⟩
  apply tells_of_starts h hpretty hwork hurl
  rw [asked_eq]
  apply Traced.outcome_map_eq_ok_iff.2
  exact ⟨_, Search.ask_eq_some_iff.2 ⟨sql, columns, rows, hsql, hreply, heven, rfl⟩, rfl⟩

end

/-- For every request that comes to a statement, and all rows that the engine gives for it, the call
ends well and prints one document with the report.  If no cell is an infinity, the request, the
statement, the number of rows and the rows in their order are read back from it, every cell as it
is but for bytes, which are read back as their quoted text.  If a cell is an infinity, what is
printed is no document, and nothing is read back. -/
theorem ask_document_tells_report {s : Surroundings} {o : Options} {args : List Text}
    {database query : Option Text} {given : Settings} {q url sql : Text} {answer : Store.Answer}
    {columns : List Text} {rows : List Database.Row}
    (h : IsCallOf s args o (.ask database query)) (hpretty : o.pretty = false)
    (hsettings : settings s o = .ok given)
    (hquery : Command.spoken? (Command.places s.environment database query).2 = some q)
    (hurl : locate s (Command.places s.environment database query).1 = .ok url)
    (hsql : (Search.statement? given (s.store url) none q).outcome = .ok (some sql))
    (hreply : answer sql = .rows columns rows)
    (heven : ∀ row ∈ rows, row.length = columns.length)
    (hcells : ∀ row ∈ rows, ∀ v ∈ row, v.IsCell) :
    let x := call s answer args
    let r : Report := ⟨q, sql, rows.length, rows.map (Fields.ofPairs columns)⟩
    x.exitCode = 0 ∧ x.escaped = none ∧ x.stdout = Json.document r.toDatum ++ ['\n'] ∧
      (¬ r.HasInfinity → Json.read? x.stdout = some r.toldDatum) ∧
      (r.HasInfinity → Json.read? x.stdout = none) := by
  intro x r
  have htells : x.Tells (.report r) := by
    have hstored : ∀ row ∈ rows, row.map Database.stored = row := fun row hrow =>
      (List.map_congr_left fun v hv => (hcells row hrow v hv).stored_eq).trans (List.map_id _)
    have hreport : Search.reportOf q sql columns rows = r := by
      have hrows : (rows.map fun row => Fields.ofPairs columns (row.map Database.stored))
          = rows.map (Fields.ofPairs columns) :=
        List.map_congr_left fun row hrow => by rw [hstored row hrow]
      simp only [Search.reportOf, hrows, r]
    rw [← hreport]
    exact tells_report h hpretty hsettings hquery hurl hsql hreply heven
  have hreport : r.HasCells := by
    intro fs hfs f hf
    obtain ⟨row, hrow, rfl⟩ := List.mem_map.1 hfs
    exact hcells row hrow _ (Fields.snd_mem_of_mem_ofPairs hf)
  refine ⟨htells.exitCode, htells.escaped, htells.stdout, fun hfinite => ?_, fun hinf => ?_⟩
  · exact htells.read?_stdout.trans (Report.told?_eq_some hreport hfinite)
  · exact htells.read?_stdout.trans (Report.told?_eq_none hinf)

/-- A request for which the engine gives a row with a text, bytes and the least double above zero,
and one for which it gives an infinity. -/
theorem ask_document_tells_report_two_answers :
    let s : Surroundings := Installed.surroundings (fun _ => none) ⟨none, fun _ => none⟩
      (fun _ => .file) fun _ _ => Installed.contents
        ⟨[.table "T".toList ["A".toList] [], .table "T_fts".toList ["A".toList] []]⟩
    let args := ["ask".toList, "lib.db".toList, "T about cats".toList]
    let columns := ["A".toList, "B".toList, "C".toList]
    let least : Datum := .real (.finite false ⟨0, by decide⟩ ⟨1, by decide⟩)
    let sql := "SELECT rowid, * FROM T_fts WHERE T_fts MATCH 'cats'".toList
    let first : Store.Answer := fun _ =>
      .rows columns [[.text "a\"b".toList, .bytes [0, 39], least]]
    let second : Store.Answer := fun _ => .rows ["A".toList] [[.real (.infinite false)]]
    Json.read? (call s first args).stdout
        = some (.record [("query".toList, .text "T about cats".toList),
          ("sql".toList, .text sql), ("count".toList, .int 1),
          ("rows".toList, .list [.record [("A".toList, .text "a\"b".toList),
            ("B".toList, .text "b\"\\x00'\"".toList), ("C".toList, least)]])]) ∧
      Json.read? (call s second args).stdout = none := by
  intro s args columns least sql first second
  have hcall : IsCallOf s args {} (.ask (some "lib.db".toList) (some "T about cats".toList)) :=
    ⟨⟨_, _, _, rfl, rfl, rfl⟩, nofun, nofun⟩
  have hurl : locate s (some "lib.db".toList)
      = .ok (Location.fileUrl "sqlite".toList "lib.db".toList) := rfl
  have hopens : (s.store (Location.fileUrl "sqlite".toList "lib.db".toList)).Opens
      (Database.reader
        ⟨[.table "T".toList ["A".toList] [], .table "T_fts".toList ["A".toList] []]⟩) :=
    opens_fileUrl rfl .dialect (by decide) (by decide) (by decide) ⟨by decide, by decide⟩ rfl
  have hsql : (Search.statement? {} (s.store (Location.fileUrl "sqlite".toList "lib.db".toList))
      none "T about cats".toList).outcome = .ok (some sql) :=
    Traced.outcome_bind_eq_ok_iff.2 ⟨_, Discovery.catalog_of_one_table hopens, rfl⟩
  constructor
  · have hcells : ∀ row ∈ [[.text "a\"b".toList, .bytes [0, 39], least]], ∀ v ∈ row, v.IsCell := by
      simp only [forall_eq, List.mem_cons, List.not_mem_nil, or_false]
      rintro v (rfl | rfl | rfl)
      · exact .text _
      · exact .bytes _
      · exact .real nofun
    have hfinite : ∀ v ∈ [.text "a\"b".toList, .bytes [0, 39], least], ¬ v.IsInfinity := by
      simp only [List.mem_cons, List.not_mem_nil, or_false]
      rintro v (rfl | rfl | rfl) ⟨negative, hv⟩
      · cases hv
      · cases hv
      · exact absurd (Datum.real.inj hv) nofun
    obtain ⟨-, -, -, hread, -⟩ :=
      @ask_document_tells_report s {} args _ _ {} _ _ _ first columns _ hcall rfl rfl rfl hurl hsql
        rfl (by decide) hcells
    apply hread
    rintro ⟨fs, hfs, f, hf, hinf⟩
    rw [List.mem_singleton.1 hfs] at hf
    exact hfinite f.2 (Fields.snd_mem_of_mem_ofPairs hf) hinf
  · have hcells : ∀ row ∈ [[Datum.real (.infinite false)]], ∀ v ∈ row, v.IsCell := by
      simp only [List.mem_singleton, forall_eq]
      exact .real nofun
    obtain ⟨-, -, -, -, hread⟩ :=
      @ask_document_tells_report s {} args _ _ {} _ _ _ second ["A".toList] _ hcall rfl rfl rfl hurl
        hsql rfl (by decide) hcells
    exact hread ⟨_, List.mem_singleton_self _, _, List.mem_singleton_self _, false, rfl⟩

end CommandLine
end PlainSearch
