/-
  Proofs/Request/Filter.lean --- which conditions a text puts on the rows of a table.

  WHAT THIS FILE IS FOR.  The conditions are found by five rules, each a walk over the text
  and a look at the table.  Said without the walks, a condition is there exactly if

      its clause stands in the text      (`Clause.OccursFirst`, with the numeral of the first
                                          place where it does) and
      the table has its column           (`Table.IsFirstOf`, `Table.IsKeyColumn`),

  and it is then the wording of that column and that numeral (`Request.IsCondition`).  The
  five stand in a fixed order, and there are no others (`Request.filters_exact`).

  THE COLUMN OF A KEY.  A name is looked up as the first column that has it.  So a table with
  two columns named id, of which only the second holds whole numbers, is keyed by rowid
  (`Request.filters_of_second_id`).
-/
import Mathlib.Data.List.Nodup
import PlainSearch.Proofs.Request.Occurrence
import PlainSearch.Proofs.Request.Statement

set_option autoImplicit false

namespace PlainSearch

/-! ## Columns -/

namespace Table

variable {t : Table} {name : Text}

theorem isFirstOf_iff {types : List ColumnType} :
    t.IsFirstOf types name ↔ ∃ c, t.firstColumnOf? types = some c ∧ c.name = name := by
  constructor
  · rintro ⟨front, c, back, hcolumns, hname, htype, hfront⟩
    refine ⟨c, List.find?_eq_some_iff_append.2 ⟨?_, front, back, hcolumns, ?_⟩, hname⟩
    · simpa using htype
    · intro b hb
      simpa using hfront b hb
  · rintro ⟨c, hc, rfl⟩
    exact isFirstOf_of_firstColumnOf? hc

/-- The first column named id holds whole numbers. -/
def HasWholeId (t : Table) : Prop :=
  ∃ front c back, t.columns = front ++ c :: back ∧ c.name = "id".toList ∧ c.type = .integer ∧
    ∀ b ∈ front, b.name ≠ "id".toList

/-- The column of a key: id if the first column of that name holds whole numbers, rowid if there
is no such column or if it does not. -/
def IsKeyColumn (t : Table) (name : Text) : Prop :=
  t.HasWholeId ∧ name = "id".toList ∨ ¬ t.HasWholeId ∧ name = "rowid".toList

theorem hasWholeId_iff :
    t.HasWholeId ↔ ∃ c, t.column? "id".toList = some c ∧ c.type = .integer := by
  constructor
  · rintro ⟨front, c, back, hcolumns, hname, htype, hfront⟩
    refine ⟨c, List.find?_eq_some_iff_append.2 ⟨?_, front, back, hcolumns, ?_⟩, htype⟩
    · simpa using hname
    · intro b hb
      simpa using hfront b hb
  · rintro ⟨c, hc, htype⟩
    obtain ⟨hname, front, back, hcolumns, hfront⟩ := List.find?_eq_some_iff_append.1 hc
    refine ⟨front, c, back, hcolumns, by simpa using hname, htype, fun b hb => ?_⟩
    simpa using hfront b hb

theorem isKeyColumn_iff : t.IsKeyColumn name ↔ name = FilterRule.keyColumn t := by
  have hkey : FilterRule.keyColumn t
      = if ∃ c, t.column? "id".toList = some c ∧ c.type = .integer then "id".toList
        else "rowid".toList := by
    unfold FilterRule.keyColumn
    cases hc : t.column? "id".toList with
    | none => simp
    | some c => simp
  rw [IsKeyColumn, hasWholeId_iff, hkey]
  split
  · next h => simp only [h, true_and, not_true_eq_false, false_and, or_false]
  · next h => simp only [h, false_and, not_false_eq_true, true_and, false_or]

end Table

/-! ## Conditions -/

namespace Request

/-- A condition of a text: its clause, with these keywords and numerals, stands in the text, one of
these columns is there, and `f` is the wording of the column and the first numeral. -/
def IsCondition (column : Text → Prop) (keywords : List Keyword) (numeral : Text → Text → Prop)
    (wording : Text → Text → Text) (text f : Text) : Prop :=
  ∃ c n, column c ∧ Clause.OccursFirst keywords numeral text n ∧ f = wording c n

end Request

namespace FilterRule

open Clause (IsClear)
open Request (IsCondition)

variable {table : Table} {text f : Text}

/-- A rule finds a condition of its clause, once it is known what its numerals are and what it
makes of one. -/
theorem found?_eq_some_iff {r : FilterRule} {column : Text → Prop} {R : Text → Text → Prop}
    {wording : Text → Text → Text} (hclear : IsClear r.clause.keywords)
    (hR : r.clause.numeral.Reads R)
    (hcondition : ∀ n f, r.condition? table n = some f ↔ ∃ c, column c ∧ f = wording c n) :
    r.found? table text = some f ↔ IsCondition column r.clause.keywords R wording text f := by
  unfold found? IsCondition
  rw [Option.bind_eq_some_iff]
  constructor
  · rintro ⟨o, ho, hf⟩
    obtain ⟨c, hc, hwording⟩ := (hcondition _ _).1 hf
    exact ⟨c, o.numeral, hc, (Clause.exists_first?_iff hclear hR).1 ⟨o, ho, rfl⟩, hwording⟩
  · rintro ⟨c, n, hc, hn, hwording⟩
    obtain ⟨o, ho, rfl⟩ := (Clause.exists_first?_iff hclear hR).2 hn
    exact ⟨o, ho, (hcondition _ _).2 ⟨c, hc, hwording⟩⟩

/-- What is made of the first column of some types. -/
theorem map_firstColumnOf?_eq_some_iff (types : List ColumnType) (wording : Text → Text) :
    (table.firstColumnOf? types).map (fun c => wording c.name) = some f ↔
      ∃ c, table.IsFirstOf types c ∧ f = wording c := by
  simp only [Table.isFirstOf_iff, Option.map_eq_some_iff]
  constructor
  · rintro ⟨c, hc, hf⟩
    exact ⟨c.name, ⟨c, hc, rfl⟩, hf.symm⟩
  · rintro ⟨_, ⟨c, hc, rfl⟩, hf⟩
    exact ⟨c, hc, hf.symm⟩

theorem found?_onDate {keyword operator : Text} (hclear : IsClear [[keyword]]) :
    (onDate keyword operator).found? table text = some f ↔
      IsCondition (table.IsFirstOf [.timestamp]) [[keyword]] (fun n _ => Text.IsYear n)
        (fun c y => c ++ (' ' :: operator ++ " '".toList) ++ y ++ "-01-01'".toList) text f := by
  refine found?_eq_some_iff hclear NumeralForm.reads_year fun y f => ?_
  rw [← map_firstColumnOf?_eq_some_iff]
  simp [onDate]

theorem found?_onNumber {keywords : List Keyword} {operator : Text} (hclear : IsClear keywords) :
    (onNumber keywords operator).found? table text = some f ↔
      IsCondition (table.IsFirstOf ColumnType.numeric) keywords NumeralForm.IsLongestAmount
        (fun c n => c ++ (' ' :: operator ++ [' ']) ++ n) text f := by
  refine found?_eq_some_iff hclear NumeralForm.reads_amount fun n f => ?_
  rw [← map_firstColumnOf?_eq_some_iff]
  simp [onNumber]

theorem found?_onKey (hclear : IsClear [["id".toList]]) :
    onKey.found? table text = some f ↔
      IsCondition table.IsKeyColumn [["id".toList]]
        (fun n r => Text.IsDigits n ∧ ∀ c ∈ r.head?, Text.isWordChar c = false)
        (fun c n => c ++ " = ".toList ++ n) text f := by
  refine found?_eq_some_iff hclear NumeralForm.reads_whole fun n f => ?_
  simp only [onKey, Option.some.injEq, Table.isKeyColumn_iff, exists_eq_left]
  exact eq_comm

end FilterRule

/-- Keywords are clear if that can be checked on the first characters of their words. -/
theorem Clause.isClear_of_all {keywords : List Keyword}
    (hproper : ∀ k ∈ keywords, k ≠ [] ∧
      (k.all fun w => w.head?.any fun c => !Text.isBlank c) = true)
    (hfirst : (keywords.map Keyword.first).Nodup) : IsClear keywords where
  proper k hk := by
    refine ⟨(hproper k hk).1, fun w hw => ?_⟩
    have hany := List.all_eq_true.1 (hproper k hk).2 w hw
    cases w with
    | nil => cases hany
    | cons a u =>
      refine ⟨List.cons_ne_nil a u, fun c hc => ?_⟩
      cases hc
      simpa using hany
  eq_of_first _ hk _ hk' h := List.inj_on_of_nodup_map hfirst hk hk' h

namespace Request

/-- The conditions of a text are exactly those whose clause stands in it and whose column the table
has: at most one of each of the five kinds, in this order, with the numeral of the first place
where the clause stands. -/
theorem filters_exact (table : Table) (text : Text) :
    ∃ after before less greater key : Option Text,
      filters table text = [after, before, less, greater, key].filterMap id ∧
      (∀ f, after = some f ↔
        IsCondition (table.IsFirstOf [.timestamp]) [["after".toList]] (fun n _ => Text.IsYear n)
          (fun c y => c ++ " >= '".toList ++ y ++ "-01-01'".toList) text f) ∧
      (∀ f, before = some f ↔
        IsCondition (table.IsFirstOf [.timestamp]) [["before".toList]] (fun n _ => Text.IsYear n)
          (fun c y => c ++ " < '".toList ++ y ++ "-01-01'".toList) text f) ∧
      (∀ f, less = some f ↔
        IsCondition (table.IsFirstOf [.float, .integer])
          [["less".toList, "than".toList], ["under".toList]] NumeralForm.IsLongestAmount
          (fun c n => c ++ " < ".toList ++ n) text f) ∧
      (∀ f, greater = some f ↔
        IsCondition (table.IsFirstOf [.float, .integer])
          [["greater".toList, "than".toList], ["over".toList], ["more".toList, "than".toList]]
          NumeralForm.IsLongestAmount (fun c n => c ++ " > ".toList ++ n) text f) ∧
      (∀ f, key = some f ↔
        IsCondition table.IsKeyColumn [["id".toList]]
          (fun n r => Text.IsDigits n ∧ ∀ c ∈ r.head?, Text.isWordChar c = false)
          (fun c n => c ++ " = ".toList ++ n) text f) := by
  refine ⟨(FilterRule.onDate "after".toList ">=".toList).found? table text,
    (FilterRule.onDate "before".toList "<".toList).found? table text,
    (FilterRule.onNumber [["less".toList, "than".toList], ["under".toList]] "<".toList).found?
      table text,
    (FilterRule.onNumber [["greater".toList, "than".toList], ["over".toList],
      ["more".toList, "than".toList]] ">".toList).found? table text,
    FilterRule.onKey.found? table text, ?_, ?_, ?_, ?_, ?_, ?_⟩
  · rw [filters_eq_filterMap]
    exact (List.filterMap_map (g := id)).symm
  · exact fun f => FilterRule.found?_onDate (Clause.isClear_of_all (by decide) (by decide))
  · exact fun f => FilterRule.found?_onDate (Clause.isClear_of_all (by decide) (by decide))
  · exact fun f => FilterRule.found?_onNumber (Clause.isClear_of_all (by decide) (by decide))
  · exact fun f => FilterRule.found?_onNumber (Clause.isClear_of_all (by decide) (by decide))
  · exact fun f => FilterRule.found?_onKey (Clause.isClear_of_all (by decide) (by decide))

/-- With two columns named id, of which only the second holds whole numbers, a key is a rowid. -/
theorem filters_of_second_id :
    (∃ c ∈ (⟨"t".toList, [⟨"id".toList, .text⟩, ⟨"id".toList, .integer⟩]⟩ : Table).columns,
      c.name = "id".toList ∧ c.type = .integer) ∧
    Clause.OccursFirst [["id".toList]]
      (fun n r => Text.IsDigits n ∧ ∀ c ∈ r.head?, Text.isWordChar c = false)
      "id 5".toList "5".toList ∧
    filters ⟨"t".toList, [⟨"id".toList, .text⟩, ⟨"id".toList, .integer⟩]⟩ "id 5".toList
      = ["rowid = 5".toList] ∧
    "rowid = 5".toList ≠ "id = 5".toList := by
  have hgap : Text.IsGap [' '] := ⟨by decide, List.forall_mem_singleton.2 (by decide)⟩
  have hkey : Text.IsDigits "5".toList := ⟨by decide, List.forall_mem_singleton.2 (by decide)⟩
  refine ⟨by decide, ⟨0, ?_, fun q m _ => Nat.zero_le q⟩, by decide +kernel, by decide⟩
  exact ⟨[], _, "id".toList, [' '], [], rfl, rfl, nofun, List.mem_singleton.2 rfl, .word _, hgap,
    hkey, nofun⟩

end Request
end PlainSearch
