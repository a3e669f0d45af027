/-
  Proofs/Database/Relation.lean --- the columns of a relation can be told apart.

  WHAT THIS FILE IS FOR.  A statement names a column, and the engine looks for the
  name among the columns of a relation without regard to the case of ASCII letters.
  That this finds the column itself, and not another one before it, rests on a
  property of databases:

      no table has two columns whose names differ in case alone, and no name has a
      null character (`IsSound`).

  Whatever a name then stands for, be it a table, a view, a view of a view or the table
  of the objects, its columns can be told apart (`isSound_of_relation?`), so every
  listed column is found by its name (`Relation.meaning_of_mem`).  For a view this
  depends on the numbers that are put behind repeated names: among one more of them
  than there are names taken, one is free (`newName_not_taken`).
-/
import Mathlib.Data.List.Nodup
import Mathlib.Data.List.Perm.Subperm
import PlainSearch.Database.Engine

set_option autoImplicit false

namespace PlainSearch.Database

/-! ## Names that differ -/

/-- The names differ in more than the case of ASCII letters. -/
def Differ (names : List Text) : Prop := (names.map (List.map Text.asciiLowerChar)).Nodup

theorem any_eqIgnoringAsciiCase_iff {name : Text} {names : List Text} :
    names.any (Text.eqIgnoringAsciiCase name) = true ↔
      name.map Text.asciiLowerChar ∈ names.map (List.map Text.asciiLowerChar) := by
  rw [List.any_eq_true, List.mem_map]
  unfold Text.eqIgnoringAsciiCase
  constructor
  · rintro ⟨n, hn, heq⟩
    exact ⟨n, hn, (of_decide_eq_true heq).symm⟩
  · rintro ⟨n, hn, heq⟩
    exact ⟨n, hn, decide_eq_true heq.symm⟩

theorem differ_concat_iff {names : List Text} {name : Text} :
    Differ (names ++ [name]) ↔
      Differ names ∧ names.any (Text.eqIgnoringAsciiCase name) = false := by
  rw [← Bool.not_eq_true, any_eqIgnoringAsciiCase_iff]
  unfold Differ
  rw [List.map_append, List.map_singleton, List.nodup_append]
  constructor
  · rintro ⟨hnames, -, hapart⟩
    refine ⟨hnames, ?_⟩
    intro hmem
    exact hapart _ hmem _ (List.mem_singleton_self _) rfl
  · rintro ⟨hnames, hnew⟩
    refine ⟨hnames, List.nodup_singleton _, ?_⟩
    intro a ha b hb heq
    rw [List.mem_singleton] at hb
    subst hb heq
    exact hnew ha

/-! ## New names -/

/-- A name with a number behind it. -/
def numbered (name : Text) (n : Nat) : Text := unnumbered name ++ ':' :: Text.ofNat n

theorem map_asciiLowerChar_ofNat (n : Nat) :
    (Text.ofNat n).map Text.asciiLowerChar = Text.ofNat n := by
  conv_rhs => rw [← List.map_id (Text.ofNat n)]
  apply List.map_congr_left
  intro c hc
  have hdigit := Text.isAsciiDigit_of_mem_ofNat hc
  simp only [Text.isAsciiDigit, Bool.and_eq_true, decide_eq_true_eq] at hdigit
  unfold Text.asciiLowerChar
  rw [if_neg (by omega)]
  rfl

/-- Different numbers make different names, whatever the case of letters. -/
theorem numbered_injective (name : Text) {m n : Nat}
    (h : (numbered name m).map Text.asciiLowerChar = (numbered name n).map Text.asciiLowerChar) :
    m = n := by
  unfold numbered at h
  rw [List.map_append, List.map_append, List.append_cancel_left_eq, List.map_cons, List.map_cons,
    List.cons.injEq, map_asciiLowerChar_ofNat, map_asciiLowerChar_ofNat] at h
  rw [← Text.numeralValue_ofNat m, h.2, Text.numeralValue_ofNat]

/-- There are more numbered names than names taken, so one of them is new. -/
theorem exists_numbered_not_taken (taken : List Text) (name : Text) :
    ∃ i < taken.length + 1,
      taken.any (Text.eqIgnoringAsciiCase (numbered name (i + 1))) = false := by
  apply Classical.byContradiction
  intro hall
  have hsubset : (List.range (taken.length + 1)).map
      (fun i => (numbered name (i + 1)).map Text.asciiLowerChar)
        ⊆ taken.map (List.map Text.asciiLowerChar) := by
    intro t ht
    obtain ⟨i, hi, rfl⟩ := List.mem_map.1 ht
    rw [← any_eqIgnoringAsciiCase_iff, ← Bool.not_eq_false]
    intro hnew
    exact hall ⟨i, List.mem_range.1 hi, hnew⟩
  have hnodup : ((List.range (taken.length + 1)).map
      (fun i => (numbered name (i + 1)).map Text.asciiLowerChar)).Nodup := by
    apply List.Nodup.map ?_ List.nodup_range
    intro i j hij
    exact Nat.succ.inj (numbered_injective name hij)
  have hle := (List.subperm_of_subset hnodup hsubset).length_le
  rw [List.length_map, List.length_map, List.length_range] at hle
  omega

/-- A new name is none of those taken, and it is the name itself or that with a number. -/
theorem newName_spec (taken : List Text) (name : Text) :
    taken.any (Text.eqIgnoringAsciiCase (newName taken name)) = false ∧
      (newName taken name = name ∨ ∃ n, newName taken name = numbered name n) := by
  unfold newName
  dsimp only
  split
  · next hnew =>
    rw [Bool.not_eq_true'] at hnew
    exact ⟨hnew, .inl rfl⟩
  · obtain ⟨i, hi, hfree⟩ := exists_numbered_not_taken taken name
    cases hfind : ((List.range (taken.length + 1)).map fun i =>
        unnumbered name ++ ':' :: Text.ofNat (i + 1)).find? fun n =>
          !taken.any (Text.eqIgnoringAsciiCase n) with
    | some n =>
      obtain ⟨j, -, rfl⟩ := List.mem_map.1 (List.mem_of_find?_eq_some hfind)
      have hnew := List.find?_some hfind
      rw [Bool.not_eq_true'] at hnew
      exact ⟨hnew, .inr ⟨j + 1, rfl⟩⟩
    | none =>
      have hnone := List.find?_eq_none.1 hfind (numbered name (i + 1))
        (List.mem_map_of_mem (List.mem_range.2 hi))
      rw [hfree] at hnone
      exact absurd rfl hnone

theorem mem_of_mem_unnumbered {name : Text} {c : Char} (h : c ∈ unnumbered name) : c ∈ name := by
  unfold unnumbered at h
  split at h
  · next r hr =>
    have hmem : c ∈ name.reverse.dropWhile Text.isAsciiDigit := by
      rw [hr]
      exact List.mem_cons_of_mem _ (List.mem_reverse.1 h)
    exact List.mem_reverse.1 ((List.dropWhile_sublist _).subset hmem)
  · exact h

theorem null_not_mem_ofNat (n : Nat) : '\x00' ∉ Text.ofNat n := by
  intro h
  exact absurd (Text.isAsciiDigit_of_mem_ofNat h) (by decide)

theorem null_not_mem_newName {name : Text} (taken : List Text) (h : '\x00' ∉ name) :
    '\x00' ∉ newName taken name := by
  rcases (newName_spec taken name).2 with heq | ⟨n, heq⟩
  · rwa [heq]
  · rw [heq, numbered, List.mem_append, List.mem_cons, not_or, not_or]
    exact ⟨fun hmem => h (mem_of_mem_unnumbered hmem), by decide, null_not_mem_ofNat n⟩

theorem differ_withNewNames {taken : List Text} (h : Differ taken) (as : List Attribute) :
    Differ (taken ++ (withNewNames taken as).map (·.name)) := by
  induction as generalizing taken with
  | nil => simpa [withNewNames] using h
  | cons a as ih =>
    rw [withNewNames, List.map_cons, ← List.singleton_append, ← List.append_assoc]
    exact ih (differ_concat_iff.2 ⟨h, (newName_spec taken _).1⟩)

theorem null_not_mem_withNewNames {taken : List Text} {as : List Attribute}
    (h : ∀ a ∈ as, '\x00' ∉ a.name) : ∀ a ∈ withNewNames taken as, '\x00' ∉ a.name := by
  induction as generalizing taken with
  | nil =>
    intro a ha
    cases ha
  | cons b as ih =>
    intro a ha
    rcases List.mem_cons.1 ha with rfl | ha
    · apply null_not_mem_newName
      split
      · rw [List.mem_append, not_or]
        exact ⟨by decide, null_not_mem_ofNat _⟩
      · exact h b List.mem_cons_self
    · exact ih (fun c hc => h c (List.mem_cons_of_mem b hc)) a ha

/-! ## Relations -/

namespace Relation

/-- The columns that are listed can be told apart, and no column has a null character in its
name. -/
structure IsSound (r : Relation) : Prop where
  differ : Differ (r.attributes.map (·.name))
  characters : ∀ a ∈ r.attributes ++ r.hidden, '\x00' ∉ a.name

/-- A listed column is what its name stands for. -/
theorem meaning_of_mem {r : Relation} (h : r.IsSound) {a : Attribute} (ha : a ∈ r.attributes) :
    r.meaning a.name = .attribute a := by
  have hself : Text.eqIgnoringAsciiCase a.name a.name = true := decide_eq_true rfl
  have hfind : (r.attributes ++ r.hidden).find?
      (fun b => Text.eqIgnoringAsciiCase b.name a.name) = some a := by
    cases hb : r.attributes.find? fun b => Text.eqIgnoringAsciiCase b.name a.name with
    | none => exact absurd hself (List.find?_eq_none.1 hb a ha)
    | some b =>
      have hmem := List.mem_of_find?_eq_some hb
      have hsame : Text.eqIgnoringAsciiCase b.name a.name = true := by
        simpa using List.find?_some hb
      have hname : b.name.map Text.asciiLowerChar = a.name.map Text.asciiLowerChar :=
        of_decide_eq_true hsame
      have hdiffer := h.differ
      unfold Differ at hdiffer
      rw [List.map_map] at hdiffer
      have heq : b = a := List.inj_on_of_nodup_map hdiffer hmem ha hname
      rw [List.find?_append, hb, heq]
      rfl
  unfold meaning
  rw [hfind]

theorem map_name_columnsOf (names : List Text) (rows : List Row) :
    (columnsOf names rows).map (·.name) = names := by
  unfold columnsOf
  rw [List.map_map]
  exact List.zipIdx_map_fst 0 names

theorem isSound_ofRows {names : List Text} (rows : List Row) (hdiffer : Differ names)
    (hcharacters : ∀ n ∈ names, '\x00' ∉ n) : (ofRows names rows).IsSound := by
  refine ⟨?_, ?_⟩
  · show Differ ((columnsOf names rows).map (·.name))
    rwa [map_name_columnsOf]
  · intro a ha
    have hmem : a ∈ columnsOf names rows := by simpa [ofRows] using ha
    apply hcharacters
    rw [← map_name_columnsOf names rows]
    exact List.mem_map_of_mem hmem

end Relation

theorem null_not_mem_viewColumn {source : Relation} (h : source.IsSound) {name : Text}
    (hname : '\x00' ∉ name) : '\x00' ∉ (viewColumn source name).name := by
  unfold viewColumn
  split
  · next a ha =>
    unfold Relation.meaning at ha
    split at ha
    · next hb =>
      cases ha
      exact h.characters a (List.mem_of_find?_eq_some hb)
    · split at ha <;> cases ha
  · show '\x00' ∉ "rowid".toList
    decide
  · show '\x00' ∉ Sql.quotedName name
    intro hmem
    rw [Sql.quotedName, List.mem_append, List.mem_cons, Text.substitute, List.mem_flatMap] at hmem
    rcases hmem with (hquote | ⟨c, hc, hmem⟩) | hquote
    · exact absurd hquote (by decide)
    · split at hmem
      · exact absurd hmem (by decide)
      · rw [List.mem_singleton] at hmem
        exact hname (hmem ▸ hc)
    · exact absurd hquote (by decide)

theorem isSound_viewed {source : Relation} (h : source.IsSound) {columns : List Text}
    (hcolumns : ∀ c ∈ columns, '\x00' ∉ c) : (viewed source columns).IsSound := by
  have hnone : Differ [] := List.nodup_nil
  refine ⟨differ_withNewNames hnone _, ?_⟩
  intro a ha
  have hmem : a ∈ withNewNames [] (columns.map (viewColumn source)) := by
    simpa [viewed] using ha
  refine null_not_mem_withNewNames ?_ a hmem
  intro b hb
  obtain ⟨c, hc, rfl⟩ := List.mem_map.1 hb
  exact null_not_mem_viewColumn h (hcolumns c hc)

/-! ## Databases -/

/-- The columns that an object is declared with. -/
def Object.columns : Object → List Text
  | .table _ cs _ => cs
  | .fullText _ cs _ => cs
  | .shadow _ kind width => kind.columns width
  | .view _ _ cs => cs
  | .index _ _ cs => cs

/-- A table does not have two columns of one name, and no name has a null character. -/
structure Object.IsSound (o : Object) : Prop where
  differ : o.isTable = true → Differ o.columns
  characters : ∀ n ∈ o.name :: o.columns, '\x00' ∉ n

/-- Every object is sound. -/
def IsSound (db : Database) : Prop := ∀ o ∈ db.objects, o.IsSound

variable {db : Database}

theorem isSound_inventoryColumns (rows : List Row) :
    (Relation.ofRows inventoryColumns rows).IsSound := by
  apply Relation.isSound_ofRows
  · unfold Differ
    decide
  · decide

/-- The columns of a table that the engine keeps differ, and no name has a null character. -/
theorem Shadow.isSound_columns (kind : Shadow) (width : Nat) :
    Differ (kind.columns width) ∧ ∀ n ∈ kind.columns width, '\x00' ∉ n := by
  unfold Differ
  cases kind with
  | blocks | terms | sizes | settings =>
    rw [columns]
    exact ⟨by decide, by decide⟩
  | cells =>
    -- the columns of the cells are told apart by their numbers
    have hlower : ∀ i : Nat, ('c' :: Text.ofNat i).map Text.asciiLowerChar
        = 'c' :: Text.ofNat i := by
      intro i
      rw [List.map_cons, map_asciiLowerChar_ofNat]
      rfl
    refine ⟨?_, ?_⟩
    · rw [columns, List.map_cons, List.map_map, List.nodup_cons]
      refine ⟨?_, ?_⟩
      · rw [List.mem_map]
        rintro ⟨i, -, hi⟩
        rw [Function.comp_apply, hlower] at hi
        have hhead : 'c' = 'i' := (List.cons.inj hi).1
        exact absurd hhead (by decide)
      · apply List.Nodup.map ?_ List.nodup_range
        intro i j hij
        rw [Function.comp_apply, Function.comp_apply, hlower, hlower, List.cons.injEq] at hij
        rw [← Text.numeralValue_ofNat i, hij.2, Text.numeralValue_ofNat]
    · intro n hn
      rcases List.mem_cons.1 hn with rfl | hn
      · decide
      · obtain ⟨i, -, rfl⟩ := List.mem_map.1 hn
        rw [List.mem_cons, not_or]
        exact ⟨by decide, null_not_mem_ofNat i⟩

theorem isSound_of_relationOf? {o : Object} {r : Relation} (h : o.IsSound)
    (hr : db.relationOf? o = some r) : r.IsSound := by
  have hcolumns : ∀ n ∈ o.columns, '\x00' ∉ n := fun n hn =>
    h.characters n (List.mem_cons_of_mem _ hn)
  cases o with
  | table name cs rows =>
    cases hr
    exact Relation.isSound_ofRows rows (h.differ rfl) hcolumns
  | fullText name cs rows =>
    cases hr
    have hlisted := Relation.isSound_ofRows rows (h.differ rfl) hcolumns
    refine ⟨hlisted.differ, ?_⟩
    intro a ha
    rcases List.mem_append.1 ha with ha | ha
    · exact hlisted.characters a (List.mem_append_left _ ha)
    · simp only [List.mem_cons, List.not_mem_nil, or_false] at ha
      rcases ha with rfl | rfl
      · exact h.characters name List.mem_cons_self
      · show '\x00' ∉ "rank".toList
        decide
  | shadow owner kind width =>
    cases hr
    exact Relation.isSound_ofRows _ (h.differ rfl) hcolumns
  | view name source cs => cases hr
  | index name source cs => cases hr

theorem isSound_of_table? (h : db.IsSound) {name : Text} {r : Relation}
    (hr : db.table? name = some r) : r.IsSound := by
  unfold table? at hr
  split at hr
  · cases hr
    exact isSound_inventoryColumns _
  · obtain ⟨s, hs, rfl⟩ := Option.map_eq_some_iff.1 hr
    obtain ⟨o, ho, hs⟩ := Option.bind_eq_some_iff.1 hs
    have hmem : o ∈ db.objects := List.mem_of_find?_eq_some ho
    have hsound := isSound_of_relationOf? (h o hmem) hs
    exact ⟨hsound.differ, hsound.characters⟩

theorem null_not_mem_of_mem_views (h : db.IsSound) :
    ∀ v ∈ db.views, ∀ c ∈ v.columns, '\x00' ∉ c := by
  intro v hv c hc
  obtain ⟨o, ho, heq⟩ := List.mem_filterMap.1 hv
  split at heq
  · next name source cs =>
    cases heq
    exact (h _ ho).characters c (List.mem_cons_of_mem _ hc)
  · cases heq

/-- What a name stands for is a table, or a view of what the name of its source stands for. -/
theorem relationAmong_cases {unopened : List View} {name : Text} {r : Relation}
    (hr : db.relationAmong unopened name = .ok (some r)) :
    db.table? name = some r ∨
      ∃ v s, viewNamed? unopened name = some v ∧
        db.relationAmong (viewsBut unopened name) v.source = .ok (some s) ∧
        r = viewed s v.columns := by
  rw [relationAmong] at hr
  split at hr
  · next ht =>
    cases hr
    exact .inl ht
  · split at hr
    · next v hv =>
      split at hr
      · cases hr
      · cases hr
      · next s hs =>
        cases hr
        exact .inr ⟨v, s, hv, hs, rfl⟩
    · split at hr <;> cases hr

/-- Without views, a name stands for a table or for nothing. -/
theorem relation?_of_views_eq_nil (hviews : db.views = []) {name : Text}
    (hname : fleetingNames.any (Text.eqIgnoringAsciiCase name) = false) :
    db.relation? name = .ok (db.table? name) := by
  unfold relation?
  rw [if_neg (Bool.eq_false_iff.1 hname), relationAmong]
  split
  · next r hr => rw [hr]
  · next hnone =>
    split
    · next v hv =>
      rw [hviews] at hv
      cases hv
    · rw [hviews, hnone]
      rfl

theorem isSound_of_relationAmong (h : db.IsSound) {unopened : List View} {name : Text}
    {r : Relation} (hviews : ∀ v ∈ unopened, ∀ c ∈ v.columns, '\x00' ∉ c)
    (hr : db.relationAmong unopened name = .ok (some r)) : r.IsSound := by
  -- with every view of a view, fewer views are left to look into
  induction hn : unopened.length using Nat.strongRecOn generalizing unopened name r with
  | ind n ih =>
    subst hn
    rcases relationAmong_cases hr with ht | ⟨v, s, hv, hs, rfl⟩
    · exact isSound_of_table? h ht
    · have hrest : ∀ w ∈ viewsBut unopened name, ∀ c ∈ w.columns, '\x00' ∉ c := fun w hw =>
        hviews w (List.mem_filter.1 hw).1
      have hsource : s.IsSound := ih _ (length_viewsBut_lt hv) hrest hs rfl
      exact isSound_viewed hsource (hviews v (List.mem_of_find?_eq_some hv))

/-- The columns of whatever a name stands for can be told apart. -/
theorem isSound_of_relation? (h : db.IsSound) {name : Text} {r : Relation}
    (hr : db.relation? name = .ok (some r)) : r.IsSound := by
  unfold relation? at hr
  split at hr
  · cases hr
    exact isSound_inventoryColumns []
  · exact isSound_of_relationAmong h (null_not_mem_of_mem_views h) hr

end PlainSearch.Database
