/-
  Proofs/Validation/Model.lean --- an object as a value is read as that object again.

  WHAT THIS FILE IS FOR.  Six kinds of records come in from outside: columns, tables, catalogs,
  plans, reports and settings.  A record of a kind may leave out fields that have a default, may
  have fields that the kind does not know, and may give an integer as a text or a text as its
  bytes.  The object made of it is written as a record with none of these: every field of the
  kind and no other, each in its standard form.

  THE RESULT.  `RecordKind.standard_form_stable`: the check of a kind takes exactly the values
  that have a standard form, writes the object as that form, and reads what it wrote as the same
  object.  It is the law of `Proofs/Validation/Standard` at the rules of each kind; these are the
  tables of fields below, and nothing else is particular to a kind.
-/
import PlainSearch.Proofs.Validation.Standard

set_option autoImplicit false

namespace PlainSearch

open Checked Datum

/-! ## The rules of each kind -/

/-- The fields of a column. -/
def Column.rules : List FieldRule :=
  [⟨"name".toList, none, AsText⟩,
    ⟨"type".toList, some (.text ColumnType.text.name),
      AsOneOf AsText fun c : ColumnType => .text c.name⟩]

/-- The fields of a table. -/
def Table.rules : List FieldRule :=
  [⟨"name".toList, none, AsText⟩,
    ⟨"columns".toList, some (.list []), AsList (AsModel Column.rules)⟩]

/-- The field of a catalog. -/
def Catalog.rules : List FieldRule :=
  [⟨"tables".toList, some (.list []), AsList (AsModel Table.rules)⟩]

/-- The fields of a plan. -/
def Plan.rules : List FieldRule :=
  [⟨"target".toList, none, AsModel Table.rules⟩,
    ⟨"match_expression".toList, none, AsText⟩,
    ⟨"filters".toList, some (.list []), AsList AsText⟩,
    ⟨"order_clause".toList, some .null, AsOptional AsText⟩,
    ⟨"limit".toList, some .null, AsOptional AsInteger⟩]

/-- The fields of a report. -/
def Report.rules : List FieldRule :=
  [⟨"query".toList, none, AsText⟩,
    ⟨"sql".toList, none, AsText⟩,
    ⟨"count".toList, none, AsInteger⟩,
    ⟨"rows".toList, some (.list []), AsList AsRecord⟩]

/-- The fields of settings: the suffix has a character, and the sample size is positive. -/
def Settings.rules : List FieldRule :=
  [⟨"mirror_suffix".toList, some (.text "_fts".toList),
      AsOneOf AsText fun t : { t : Text // t ≠ [] } => .text t.val⟩,
    ⟨"sample_size".toList, some (.int 10),
      AsOneOf AsInteger fun n : { n : Nat // 1 ≤ n } => .int n.val⟩,
    ⟨"markers".toList, some (.list [.text "containing".toList, .text "named".toList,
      .text "called".toList, .text "with".toList, .text "matching".toList, .text "about".toList]),
      AsList AsText⟩]

/-! ## Schemas -/

theorem ColumnType.ofName?_eq_some_iff {t : Text} {c : ColumnType} :
    ofName? t = some c ↔ t = c.name := by
  constructor
  · intro h
    have hname : c.name = t := by simpa using List.find?_some h
    exact hname.symm
  · rintro rfl
    exact ofName?_name c

theorem ColumnType.check_eq_ok_iff (v : Datum) (c : ColumnType) :
    ColumnType.check v = .ok c ↔ checkText v = .ok c.name := by
  unfold ColumnType.check
  cases checkText v with
  | error ps => simp [Except.toOption, defect]
  | ok t =>
    simp only [Except.toOption, Option.bind_some, Except.ok.injEq, ← ofName?_eq_some_iff]
    cases ofName? t with
    | some c' => simp
    | none => simp [defect]

theorem ColumnType.reads :
    Reads ColumnType.check (fun c => .text c.name)
      (AsOneOf AsText fun c : ColumnType => .text c.name) :=
  Reads.text.oneOf ColumnType.name ColumnType.check_eq_ok_iff

theorem Column.reads : Reads Column.check Column.toDatum (AsModel Column.rules) := by
  have hname := Reads.text.required "name".toList
  have htype := ColumnType.reads.optionalField "type".toList .text
  have hfields := (ReadsFields.last htype).cons hname
  exact (hfields.map (fun p => Column.mk p.1 p.2) (fun c => (c.name, c.type))
    (fun _ => rfl) (fun _ => rfl)).model (by decide) _

theorem Table.reads : Reads Table.check Table.toDatum (AsModel Table.rules) := by
  have hname := Reads.text.required "name".toList
  have hcolumns := Column.reads.fixedList.optionalField "columns".toList []
  have hfields := (ReadsFields.last hcolumns).cons hname
  exact (hfields.map (fun p => Table.mk p.1 p.2) (fun t => (t.name, t.columns))
    (fun _ => rfl) (fun _ => rfl)).model (by decide) _

theorem Catalog.reads : Reads Catalog.check Catalog.toDatum (AsModel Catalog.rules) := by
  have htables := Table.reads.fixedList.optionalField "tables".toList []
  exact ((ReadsFields.last htables).map Catalog.mk Catalog.tables
    (fun _ => rfl) (fun _ => rfl)).model (by decide) _

/-! ## Plans and reports -/

theorem Plan.reads_order :
    Reads (checkOptional checkText) SearchError.optional (AsOptional AsText) := by
  have hwrite : (fun x => (x.map Datum.text).getD .null) = SearchError.optional := by
    funext x
    cases x <;> rfl
  rw [← hwrite]
  exact Reads.text.optional fun _ => nofun

theorem Plan.reads_limit :
    Reads (checkOptional checkInteger)
      (fun x : Option Int => match x with | some n => .int n | none => .null)
      (AsOptional AsInteger) := by
  have hwrite : (fun x : Option Int => (x.map Datum.int).getD .null) =
      fun x => match x with | some n => .int n | none => .null := by
    funext x
    cases x <;> rfl
  rw [← hwrite]
  exact Reads.integer.optional fun _ => nofun

theorem Plan.reads : Reads Plan.check Plan.toDatum (AsModel Plan.rules) := by
  have htarget := Table.reads.required "target".toList
  have hexpression := Reads.text.required "match_expression".toList
  have hfilters := Reads.text.fixedList.optionalField "filters".toList []
  have horder := Plan.reads_order.optionalField "order_clause".toList none
  have hlimit := Plan.reads_limit.optionalField "limit".toList none
  have hfields := ((((ReadsFields.last hlimit).cons horder).cons hfilters).cons hexpression).cons
    htarget
  exact (hfields.map (fun p => Plan.mk p.1 p.2.1 p.2.2.1 p.2.2.2.1 p.2.2.2.2)
    (fun p => (p.target, p.expression, p.filters, p.order, p.limit))
    (fun _ => rfl) (fun _ => rfl)).model (by decide) _

theorem Report.reads : Reads Report.check Report.toDatum (AsModel Report.rules) := by
  have hquery := Reads.text.required "query".toList
  have hsql := Reads.text.required "sql".toList
  have hcount := Reads.integer.required "count".toList
  have hrows := Reads.record.list.optionalField "rows".toList []
  have hfields := (((ReadsFields.last hrows).cons hcount).cons hsql).cons hquery
  exact (hfields.map (fun p => Report.mk p.1 p.2.1 p.2.2.1 p.2.2.2)
    (fun r => (r.query, r.sql, r.count, r.rows))
    (fun _ => rfl) (fun _ => rfl)).model (by decide) _

/-! ## Settings -/

theorem checkSuffix_eq_ok_iff (v : Datum) (t : { t : Text // t ≠ [] }) :
    checkSuffix v = .ok t ↔ checkText v = .ok t.val := by
  unfold checkSuffix
  cases checkText v with
  | error ps => simp
  | ok s =>
    by_cases hs : s = []
    · simp only [hs, ne_eq, not_true_eq_false, dite_false, defect, reduceCtorEq, Except.ok.injEq,
        false_iff]
      exact t.property.symm
    · simp [hs, Subtype.ext_iff]

theorem checkPositive_eq_ok_iff (v : Datum) (n : { n : Nat // 1 ≤ n }) :
    checkPositive v = .ok n ↔ checkInteger v = .ok (n.val : Int) := by
  have hpositive := n.property
  unfold checkPositive
  cases checkInteger v with
  | error ps => simp
  | ok m =>
    by_cases hm : 1 ≤ m.toNat
    · simp only [hm, dite_true, Except.ok.injEq, Subtype.ext_iff]
      omega
    · simp only [hm, dite_false, defect, reduceCtorEq, Except.ok.injEq, false_iff]
      omega

theorem Settings.reads : Reads Settings.check Settings.toDatum (AsModel Settings.rules) := by
  let standard : Settings := {}
  have hsuffix := (Reads.text.oneOf Subtype.val checkSuffix_eq_ok_iff).optionalField
    "mirror_suffix".toList ⟨standard.suffix, standard.suffix_ne_nil⟩
  have hsize := (Reads.integer.oneOf (fun n : { n : Nat // 1 ≤ n } => (n.val : Int))
    checkPositive_eq_ok_iff).optionalField
    "sample_size".toList ⟨standard.sampleSize, standard.one_le_sampleSize⟩
  have hmarkers := Reads.text.fixedList.optionalField "markers".toList standard.markers
  have hfields := ((ReadsFields.last hmarkers).cons hsize).cons hsuffix
  exact (hfields.map
    (fun p => Settings.mk p.1.val p.2.1.val p.2.2 p.1.property p.2.1.property)
    (fun s => (⟨s.suffix, s.suffix_ne_nil⟩, ⟨s.sampleSize, s.one_le_sampleSize⟩, s.markers))
    (fun _ => rfl) (fun _ => rfl)).model (by decide) _

/-! ## All kinds -/

/-- The kinds of records that come in from outside. -/
inductive RecordKind where
  | column
  | table
  | catalog
  | plan
  | report
  | settings
  deriving DecidableEq, Repr

namespace RecordKind

/-- The objects of a kind. -/
def Object : RecordKind → Type
  | .column => Column
  | .table => Table
  | .catalog => Catalog
  | .plan => Plan
  | .report => Report
  | .settings => Settings

/-- The check of a kind. -/
def check : (k : RecordKind) → Datum → Checked k.Object
  | .column => Column.check
  | .table => Table.check
  | .catalog => Catalog.check
  | .plan => Plan.check
  | .report => Report.check
  | .settings => Settings.check

/-- An object as a value. -/
def toDatum : (k : RecordKind) → k.Object → Datum
  | .column => Column.toDatum
  | .table => Table.toDatum
  | .catalog => Catalog.toDatum
  | .plan => Plan.toDatum
  | .report => Report.toDatum
  | .settings => Settings.toDatum

/-- The fields of a kind. -/
def rules : RecordKind → List FieldRule
  | .column => Column.rules
  | .table => Table.rules
  | .catalog => Catalog.rules
  | .plan => Plan.rules
  | .report => Report.rules
  | .settings => Settings.rules

/-- The law of every kind. -/
theorem reads (k : RecordKind) : Reads k.check k.toDatum (AsModel k.rules) := by
  cases k with
  | column => exact Column.reads
  | table => exact Table.reads
  | catalog => exact Catalog.reads
  | plan => exact Plan.reads
  | report => exact Report.reads
  | settings => exact Settings.reads

/-- Of every kind and every value: the check succeeds exactly if the value has a standard form,
which has the fields of the kind in their order and no others, the defaults filled in and integers
in place of the texts and doubles that stand for them; the object is written as that form; what is
written is read as the same object; and settings have a suffix with a character and a positive
sample size. -/
theorem standard_form_stable (k : RecordKind) (v : Datum) :
    (∀ d, AsModel k.rules v d ↔ ∃ x, k.check v = .ok x ∧ k.toDatum x = d) ∧
    (∀ x, k.check v = .ok x →
      k.check (k.toDatum x) = .ok x ∧ AsModel k.rules (k.toDatum x) (k.toDatum x)) ∧
    (∀ s, Settings.check v = .ok s → s.suffix ≠ [] ∧ 1 ≤ s.sampleSize) := by
  refine ⟨k.reads.standard v, fun x _ => ?_, fun s _ => ⟨s.suffix_ne_nil, s.one_le_sampleSize⟩⟩
  have hagain := k.reads.again x
  exact ⟨hagain, k.reads.eq_ok_iff.1 hagain⟩

/-- A plan whose limit is a text with a sign, zeros and a fraction of zeros, with fields left out,
one that no plan has, and the others in no order. -/
theorem standard_form_stable_of_sparse_plan :
    ∃ v d x, v = .record [("limit".toList, .text " +07.0".toList), ("colour".toList, .bool true),
        ("match_expression".toList, .text "q".toList),
        ("target".toList, .record [("name".toList, .text "notes".toList),
          ("columns".toList, .list [.record [("name".toList, .text "id".toList)]])])] ∧
      d = .record [
        ("target".toList, .record [("name".toList, .text "notes".toList),
          ("columns".toList, .list [.record [("name".toList, .text "id".toList),
            ("type".toList, .text "text".toList)]])]),
        ("match_expression".toList, .text "q".toList), ("filters".toList, .list []),
        ("order_clause".toList, .null), ("limit".toList, .int 7)] ∧
      plan.check v = .ok x ∧ plan.toDatum x = d ∧ AsModel plan.rules v d ∧
      plan.check d = .ok x := by
  let x : Plan := ⟨⟨"notes".toList, [⟨"id".toList, .text⟩]⟩, "q".toList, [], none, some 7⟩
  have hstable : ∀ v d, plan.check v = .ok x → plan.toDatum x = d → plan.check v = .ok x ∧
      plan.toDatum x = d ∧ AsModel plan.rules v d ∧ plan.check d = .ok x := by
    rintro v _ hcheck rfl
    obtain ⟨hstandard, hagain, -⟩ := standard_form_stable .plan v
    exact ⟨hcheck, rfl, (hstandard _).2 ⟨x, hcheck, rfl⟩, (hagain x hcheck).1⟩
  exact ⟨_, _, x, rfl, rfl, hstable _ _ (by rfl) (by rfl)⟩

end RecordKind
end PlainSearch
