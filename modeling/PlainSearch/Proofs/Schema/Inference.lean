/-
  Proofs/Schema/Inference.lean --- the type of a column as the join of the types of its values.

  WHAT THIS FILE IS FOR.  The type of a column is decided on all samples together, one form
  after the other.  Here the same type is put together from the samples one by one.  A value
  by itself has the type `ColumnType.ofValue`, and the types are ordered by

            text
           /    \
       float    timestamp
         |
      integer

  The form that a type asks of every value admits exactly the values whose own type is at most
  that type (`ofValue_le_iff`): the whole numbers are among the forms of `float`, and no date
  is among those.  Hence the type found is at most `c` exactly if that of every sample is
  (`infer_le_iff`), which is to say that it is their least upper bound
  (`infer_isLUB_ofValue`).  Order and repetition of samples make no difference to a least
  upper bound, and more samples can only raise it.
-/
import Mathlib.Order.Bounds.Basic
import Mathlib.Order.Lattice
import PlainSearch.Proofs.Schema.Entry
import PlainSearch.Proofs.Text.Digit

set_option autoImplicit false

namespace PlainSearch

/-! ## The forms of values -/

namespace Text

/-- One or more of the digits 0 to 9. -/
def IsWhole (t : Text) : Prop := t ≠ [] ∧ ∀ c ∈ t, isAsciiDigit c = true

/-- Digits, a point and digits. -/
def IsDecimal (t : Text) : Prop :=
  ∃ whole part, t = whole ++ '.' :: part ∧ IsWhole whole ∧ IsWhole part

/-- Four digits, a hyphen, two digits, a hyphen, two digits, and anything behind them. -/
def IsDated (t : Text) : Prop :=
  ∃ y m d rest, t = y ++ '-' :: m ++ '-' :: d ++ rest ∧
    (y.length = 4 ∧ m.length = 2 ∧ d.length = 2) ∧ ∀ c ∈ y ++ m ++ d, isAsciiDigit c = true

variable {t : Text}

theorem isWhole_iff : isWhole t = true ↔ IsWhole t := by
  simp only [isWhole, IsWhole, Bool.and_eq_true, decide_eq_true_eq, List.all_eq_true]

/-- No whole number has a point or a hyphen. -/
theorem not_isWhole_of_mem {c : Char} (hc : isAsciiDigit c = false) (hmem : c ∈ t) :
    ¬ IsWhole t := by
  rintro ⟨-, hdigits⟩
  rw [hdigits c hmem] at hc
  cases hc

theorem not_isWhole_of_isDecimal (h : IsDecimal t) : ¬ IsWhole t := by
  obtain ⟨whole, part, rfl, -, -⟩ := h
  exact not_isWhole_of_mem (c := '.') rfl (by simp)

theorem isFraction_iff : isFraction t = true ↔ IsWhole t ∨ IsDecimal t := by
  have hsplit := List.takeWhile_append_dropWhile (p := isAsciiDigit) (l := t)
  have htake : ∀ c ∈ t.takeWhile isAsciiDigit, isAsciiDigit c = true :=
    List.all_eq_true.1 List.all_takeWhile
  constructor
  · intro h
    unfold isFraction at h
    split at h
    · next hdrop =>
      rw [hdrop, List.append_nil] at hsplit
      rw [hsplit] at htake
      exact .inl ⟨of_decide_eq_true h, htake⟩
    · next c r hdrop =>
      simp only [Bool.and_eq_true, decide_eq_true_eq, isWhole_iff] at h
      obtain ⟨⟨rfl, hne⟩, hpart⟩ := h
      rw [hdrop] at hsplit
      exact .inr ⟨_, r, hsplit.symm, ⟨hne, htake⟩, hpart⟩
  · rintro (⟨hne, hdigits⟩ | ⟨whole, part, rfl, ⟨hne, hwhole⟩, hpart⟩)
    · unfold isFraction
      rw [List.dropWhile_eq_nil_iff.2 hdigits]
      exact decide_eq_true hne
    · have hpoint : ∀ c ∈ ('.' :: part).head?, isAsciiDigit c = false := by
        intro c hc
        cases hc
        rfl
      unfold isFraction
      rw [dropWhile_run hwhole hpoint, takeWhile_run hwhole hpoint]
      simp only [Bool.and_eq_true, decide_eq_true_eq, isWhole_iff]
      exact ⟨⟨trivial, hne⟩, hpart⟩

theorem beginsWithDate_iff : beginsWithDate t = true ↔ IsDated t := by
  constructor
  · intro h
    unfold beginsWithDate at h
    split at h
    · next y₁ y₂ y₃ y₄ h₁ m₁ m₂ h₂ d₁ d₂ rest =>
      simp only [Bool.and_eq_true, decide_eq_true_eq, List.all_eq_true] at h
      obtain ⟨⟨hdigits, rfl⟩, rfl⟩ := h
      exact ⟨[y₁, y₂, y₃, y₄], [m₁, m₂], [d₁, d₂], rest, rfl, ⟨rfl, rfl, rfl⟩, hdigits⟩
    · cases h
  · rintro ⟨y, m, d, rest, rfl, ⟨hy, hm, hd⟩, hdigits⟩
    match y, hy, m, hm, d, hd with
    | [y₁, y₂, y₃, y₄], _, [m₁, m₂], _, [d₁, d₂], _ =>
      have hall : [y₁, y₂, y₃, y₄, m₁, m₂, d₁, d₂].all isAsciiDigit = true :=
        List.all_eq_true.2 hdigits
      simp only [List.cons_append, List.nil_append, beginsWithDate, hall, decide_true,
        Bool.and_true]

/-- A date has hyphens, which numbers have not. -/
theorem not_isWhole_of_isDated (h : IsDated t) : ¬ IsWhole t := by
  obtain ⟨y, m, d, rest, rfl, -, -⟩ := h
  exact not_isWhole_of_mem (c := '-') rfl (by simp)

theorem not_isDecimal_of_isDated (h : IsDated t) : ¬ IsDecimal t := by
  have hhyphen : '-' ∈ t := by
    obtain ⟨y, m, d, rest, rfl, -, -⟩ := h
    simp
  rintro ⟨whole, part, rfl, hwhole, hpart⟩
  rcases List.mem_append.1 hhyphen with hmem | hmem
  · exact not_isWhole_of_mem rfl hmem hwhole
  · rcases List.mem_cons.1 hmem with heq | hmem
    · cases heq
    · exact not_isWhole_of_mem rfl hmem hpart

instance : DecidablePred IsWhole := fun _ => decidable_of_iff _ isWhole_iff

instance : DecidablePred IsDecimal := fun t =>
  decidable_of_iff (isFraction t = true ∧ ¬ IsWhole t) (by
    rw [isFraction_iff]
    constructor
    · rintro ⟨h, hnot⟩
      exact h.resolve_left hnot
    · exact fun h => ⟨.inr h, not_isWhole_of_isDecimal h⟩)

instance : DecidablePred IsDated := fun _ => decidable_of_iff _ beginsWithDate_iff

end Text

namespace ColumnType

/-! ## The order of types -/

/-- A whole number is also a number, and everything is a text; otherwise types have nothing to do
with each other. -/
def le (a b : ColumnType) : Prop := a = b ∨ b = .text ∨ (a = .integer ∧ b = .float)

instance (a b : ColumnType) : Decidable (a.le b) := inferInstanceAs (Decidable (_ ∨ _))

/-- The least type that admits the values of both. -/
def join (a b : ColumnType) : ColumnType :=
  if a.le b then b else if b.le a then a else .text

instance : SemilatticeSup ColumnType where
  le := le
  le_refl a := .inl rfl
  le_trans a b c := by cases a <;> cases b <;> cases c <;> simp [le]
  le_antisymm a b := by cases a <;> cases b <;> simp [le]
  sup := join
  le_sup_left a b := by cases a <;> cases b <;> simp [le, join]
  le_sup_right a b := by cases a <;> cases b <;> simp [le, join]
  sup_le a b c := by cases a <;> cases b <;> cases c <;> simp [le, join]

instance (a b : ColumnType) : Decidable (a ≤ b) := inferInstanceAs (Decidable (a.le b))

/-- Dates and numbers have only their being texts in common. -/
example : ColumnType.float ⊔ .timestamp = .text ∧ ColumnType.integer ⊔ .timestamp = .text := by
  decide

theorem le_text (c : ColumnType) : c ≤ .text := .inr (.inl rfl)

theorem le_float_iff {c : ColumnType} : c ≤ .float ↔ c = .integer ∨ c = .float := by
  cases c <;> decide

theorem le_integer_iff {c : ColumnType} : c ≤ .integer ↔ c = .integer := by
  cases c <;> decide

theorem le_timestamp_iff {c : ColumnType} : c ≤ .timestamp ↔ c = .timestamp := by
  cases c <;> decide

/-! ## The type of a value -/

/-- The type of a value by itself. -/
def ofValue (t : Text) : ColumnType :=
  if Text.IsWhole t then .integer
  else if Text.IsDecimal t then .float
  else if Text.IsDated t then .timestamp
  else .text

variable {c : ColumnType} {t : Text} {samples : List Text}

theorem ofValue_eq_integer_iff : ofValue t = .integer ↔ Text.IsWhole t := by
  unfold ofValue
  split_ifs <;> simp_all

theorem ofValue_eq_float_iff : ofValue t = .float ↔ Text.IsDecimal t := by
  unfold ofValue
  have := @Text.not_isWhole_of_isDecimal t
  split_ifs <;> simp_all

theorem ofValue_eq_timestamp_iff : ofValue t = .timestamp ↔ Text.IsDated t := by
  unfold ofValue
  have := @Text.not_isWhole_of_isDated t
  have := @Text.not_isDecimal_of_isDated t
  split_ifs <;> simp_all

/-- The form that a type asks for is that of the values whose own type is at most that type. -/
theorem ofValue_le_iff : ofValue t ≤ c ↔ c.fits t = true := by
  cases c with
  | integer => rw [le_integer_iff, ofValue_eq_integer_iff, fits, Text.isWhole_iff]
  | float =>
    rw [le_float_iff, ofValue_eq_integer_iff, ofValue_eq_float_iff, fits, Text.isFraction_iff]
  | timestamp => rw [le_timestamp_iff, ofValue_eq_timestamp_iff, fits, Text.beginsWithDate_iff]
  | text => exact iff_of_true (le_text _) rfl

/-! ## The type of a column -/

/-- The forms are tried one after the other. -/
theorem infer_eq (hne : samples ≠ []) :
    infer samples =
      if samples.all ColumnType.integer.fits then .integer
      else if samples.all ColumnType.float.fits then .float
      else if samples.all ColumnType.timestamp.fits then .timestamp
      else .text := by
  have htext : samples.all ColumnType.text.fits = true := List.all_eq_true.2 fun _ _ => rfl
  rw [infer, if_neg hne]
  simp only [all, List.find?_cons, htext]
  split
  · next h => rw [if_pos h]; rfl
  · next h =>
    rw [h, if_neg Bool.false_ne_true]
    split
    · next h => rw [if_pos h]; rfl
    · next h =>
      rw [h, if_neg Bool.false_ne_true]
      split
      · next h => rw [if_pos h]; rfl
      · next h => rw [h, if_neg Bool.false_ne_true]; rfl

/-- A type whose form fits every sample is no lower than the type found. -/
theorem infer_le_of_fits (hne : samples ≠ []) (h : ∀ s ∈ samples, c.fits s = true) :
    infer samples ≤ c := by
  have hall : samples.all c.fits = true := List.all_eq_true.2 h
  cases c with
  | text => exact le_text _
  | integer => rw [infer_eq hne, if_pos hall]
  | float =>
    rw [infer_eq hne, if_pos hall, le_float_iff]
    split
    · exact .inl rfl
    · exact .inr rfl
  | timestamp =>
    -- the forms tried before have no value in common with this one
    obtain ⟨s, hs⟩ := List.exists_mem_of_ne_nil samples hne
    have hvalue : ofValue s = .timestamp := le_timestamp_iff.1 (ofValue_le_iff.2 (h s hs))
    have hnot {d : ColumnType} (hd : ¬ ColumnType.timestamp ≤ d) :
        ¬ samples.all d.fits = true := by
      intro hfits
      rw [← hvalue, ofValue_le_iff] at hd
      exact hd (List.all_eq_true.1 hfits s hs)
    rw [infer_eq hne, if_neg (hnot (by decide)), if_neg (hnot (by decide)), if_pos hall]

/-- The type found is at most a given one exactly if that of every sample is. -/
theorem infer_le_iff (hne : samples ≠ []) :
    infer samples ≤ c ↔ ∀ s ∈ samples, ofValue s ≤ c := by
  constructor
  · intro h s hs
    exact (ofValue_le_iff.2 (fits_infer s hs)).trans h
  · intro h
    exact infer_le_of_fits hne fun s hs => ofValue_le_iff.1 (h s hs)

theorem isLUB_infer (hne : samples ≠ []) :
    IsLUB {c | ∃ s ∈ samples, ofValue s = c} (infer samples) := by
  constructor
  · rintro _ ⟨s, hs, rfl⟩
    exact (infer_le_iff hne).1 le_rfl s hs
  · intro c hc
    exact (infer_le_iff hne).2 fun s hs => hc ⟨s, hs, rfl⟩

/-- More samples can only raise the type. -/
theorem infer_mono {xs ys : List Text} (hne : xs ≠ []) (h : xs ⊆ ys) : infer xs ≤ infer ys := by
  have hys : ys ≠ [] := by
    rintro rfl
    exact hne (List.subset_nil.1 h)
  exact (infer_le_iff hne).2 fun s hs => (infer_le_iff hys).1 le_rfl s (h hs)

theorem infer_append {xs ys : List Text} (hxs : xs ≠ []) (hys : ys ≠ []) :
    infer (xs ++ ys) = infer xs ⊔ infer ys := by
  apply le_antisymm
  · rw [infer_le_iff (List.append_ne_nil_of_left_ne_nil hxs ys)]
    intro s hs
    rcases List.mem_append.1 hs with hs | hs
    · exact ((infer_le_iff hxs).1 le_rfl s hs).trans le_sup_left
    · exact ((infer_le_iff hys).1 le_rfl s hs).trans le_sup_right
  · exact sup_le (infer_mono hxs (List.subset_append_left xs ys))
      (infer_mono hys (List.subset_append_right xs ys))

theorem infer_congr {xs ys : List Text} (h : ∀ s, s ∈ xs ↔ s ∈ ys) : infer xs = infer ys := by
  by_cases hxs : xs = []
  · subst hxs
    have hys : ys = [] := List.eq_nil_iff_forall_not_mem.2 fun s hs => List.not_mem_nil ((h s).2 hs)
    rw [hys]
  · have hys : ys ≠ [] := by
      rintro rfl
      exact hxs (List.eq_nil_iff_forall_not_mem.2 fun s hs => List.not_mem_nil ((h s).1 hs))
    exact le_antisymm (infer_mono hxs fun s => (h s).1) (infer_mono hys fun s => (h s).2)

end ColumnType

/-! ## Sample sizes -/

namespace Discovery

variable {store : Store} {size size' : Nat} {table column : Text} {type : ColumnType}

theorem exists_opens_of_inferColumn
    (h : (inferColumn store size table column).outcome = .ok type) : ∃ db, store.Opens db := by
  unfold inferColumn at h
  rw [Traced.outcome_bind_eq_ok_iff, Traced.outcome_ofExcept] at h
  obtain ⟨samples, hsample, -⟩ := h
  unfold Store.sample at hsample
  dsimp only at hsample
  split at hsample
  · cases hsample
  · next hvalues => exact Store.exists_opens_of_asking hvalues

/-- A column whose type is found is found with any other number of samples too, and its type with
more samples is no lower. -/
theorem exists_inferColumn_of_le (hone : 1 ≤ size) (hle : size ≤ size')
    (hbound : (size' : Int) < Integer.wordBound)
    (h : (inferColumn store size table column).outcome = .ok type) :
    ∃ type', (inferColumn store size' table column).outcome = .ok type' ∧ type ≤ type' := by
  obtain ⟨db, hopens⟩ := exists_opens_of_inferColumn h
  obtain ⟨-, -, values, hvalues, htype⟩ := (inferColumn_eq_ok_iff hopens).1 h
  refine ⟨.infer ((values.take size').map Datum.shown),
    (inferColumn_eq_ok_iff hopens).2 ⟨hbound, rfl, values, hvalues, rfl⟩, ?_⟩
  change type = _ at htype
  rw [htype]
  by_cases hnil : values = []
  · rw [hnil, List.take_nil, List.take_nil]
  · apply ColumnType.infer_mono
    · rw [ne_eq, List.map_eq_nil_iff, List.take_eq_nil_iff, not_or]
      exact ⟨by omega, hnil⟩
    · exact List.map_subset _ (List.take_subset_take_left values hle)

end Discovery

/-! ## The join over the samples -/

namespace ColumnType

open Discovery (inferColumn)

/-- The type of samples is the least upper bound of the types of the values among them, and text if
there are none.  So

  * the samples of two lists together have the join of the types of either;
  * neither order nor repetition of samples matters;
  * more samples never lower the type, and neither does a larger number of samples that the engine
    can be asked for, whatever the database. -/
theorem infer_isLUB_ofValue :
    infer [] = .text ∧
    (∀ samples : List Text, samples ≠ [] →
      IsLUB {c | ∃ s ∈ samples, ofValue s = c} (infer samples)) ∧
    (∀ xs ys : List Text, xs ≠ [] → ys ≠ [] → infer (xs ++ ys) = infer xs ⊔ infer ys) ∧
    (∀ xs ys : List Text, (∀ s, s ∈ xs ↔ s ∈ ys) → infer xs = infer ys) ∧
    (∀ xs ys : List Text, xs ≠ [] → xs ⊆ ys → infer xs ≤ infer ys) ∧
    ∀ (store : Store) (table column : Text) (size size' : Nat) (type : ColumnType),
      1 ≤ size → size ≤ size' → (size' : Int) < Integer.wordBound →
      (inferColumn store size table column).outcome = .ok type →
      ∃ type', (inferColumn store size' table column).outcome = .ok type' ∧ type ≤ type' := by
  refine ⟨rfl, fun _ hne => isLUB_infer hne, fun _ _ hxs hys => infer_append hxs hys,
    fun _ _ h => infer_congr h, fun _ _ hne h => infer_mono hne h, ?_⟩
  intro store table column size size' type hone hle hbound h
  exact Discovery.exists_inferColumn_of_le hone hle hbound h

/-- A whole number and a date, a number with a fraction that comes second, and a column that
holds it. -/
theorem infer_isLUB_ofValue_two_samples :
    IsLUB {c | ∃ s ∈ ["7".toList, "2020-01-31".toList], ofValue s = c} .text ∧
    infer ["7".toList, "2.5".toList] = .integer ⊔ .float ∧
    infer ["7".toList, "2.5".toList] = infer ["2.5".toList, "7".toList, "7".toList] ∧
    ColumnType.integer ≤ infer ["7".toList, "2.5".toList] ∧
    ∃ type, (inferColumn (Installed.store "sqlite:///lib.db".toList ⟨[.table "T".toList ["A".toList]
        [[.text "7".toList], [.text "2.5".toList]]]⟩) 2 "T".toList "A".toList).outcome = .ok type ∧
      .integer ≤ type := by
  obtain ⟨-, hlub, hjoin, hsame, hmore, hsize⟩ := infer_isLUB_ofValue
  refine ⟨?_, ?_, ?_, ?_, ?_⟩
  · exact hlub ["7".toList, "2020-01-31".toList] (List.cons_ne_nil _ _)
  · exact hjoin ["7".toList] ["2.5".toList] (List.cons_ne_nil _ _) (List.cons_ne_nil _ _)
  · apply hsame
    intro s
    simp only [List.mem_cons, List.not_mem_nil, or_false]
    exact ⟨fun h => h.symm.imp_right .inl, fun h => by rcases h with h | h | h <;> simp [h]⟩
  · exact hmore ["7".toList] _ (List.cons_ne_nil _ _) (List.cons_subset_cons _ (List.nil_subset _))
  · have hr : Database.relation? ⟨[.table "T".toList ["A".toList]
          [[.text "7".toList], [.text "2.5".toList]]]⟩ "T".toList
        = .ok (some (.ofRows ["A".toList] [[.text "7".toList], [.text "2.5".toList]])) :=
      Database.relation?_of_views_eq_nil rfl rfl
    have hsound : (Database.Relation.ofRows ["A".toList]
        [[.text "7".toList], [.text "2.5".toList]]).IsSound :=
      Database.Relation.isSound_ofRows _ (List.nodup_singleton _) (by decide)
    have hvalues := Database.columnValues_eq hsound rfl hr List.mem_cons_self rfl
    apply hsize _ _ _ 1 2 .integer (by decide) (by decide) (by decide)
    exact (Discovery.inferColumn_eq_ok_iff ⟨_, rfl, rfl⟩).2
      ⟨by decide, rfl, _, ⟨by decide, by decide, hvalues⟩, rfl⟩

end ColumnType
end PlainSearch
