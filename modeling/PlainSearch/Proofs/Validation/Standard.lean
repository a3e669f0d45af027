/-
  Proofs/Validation/Standard.lean --- the standard form of a checked value.

  WHAT THIS FILE IS FOR.  A check takes many values for the same object, and the object
  as a value is one of them.  What that one is can be said without the check: a text in
  place of its bytes, an integer in place of the text, the truth value or the whole double
  that stands for it, a list of the items' own standard forms, a record of the known
  fields in their order with the defaults filled in (`Datum.AsModel`).  Each such form is
  a relation between a value and its standard form, with a constructor for each way to get
  there.

  THE LAW.  `Reads check write as` says that a check takes exactly the values that have
  a standard form, that the object it makes of one is written as that form, and that what
  is written of any object is read as that object again.  It holds of the checks of texts
  and integers, and passes from the check of a part to the check of a list, of a value that
  may be missing, of a field and of a record, so that it is proved once for each way checks
  are put together and never for a kind of record.
-/
import Mathlib.Data.List.Forall2
import Mathlib.Data.List.Nodup
import PlainSearch.Validation.Models

set_option autoImplicit false

namespace PlainSearch

open Checked

variable {α β : Type}

/-! ## Fields by their names -/

namespace Fields

/-- In fields of different names, each has the value it is given with. -/
theorem get?_of_mem {fs : Fields} (hnodup : (fs.map (·.1)).Nodup) {f : Text × Datum}
    (hf : f ∈ fs) : fs.get? f.1 = some f.2 := by
  unfold get?
  cases hfind : fs.reverse.find? fun g => g.1 = f.1 with
  | none =>
    have habsent := List.find?_eq_none.1 hfind f (List.mem_reverse.2 hf)
    simp at habsent
  | some g =>
    have hname : g.1 = f.1 := by simpa using List.find?_some hfind
    have hg : g ∈ fs := List.mem_reverse.1 (List.mem_of_find?_eq_some hfind)
    rw [List.inj_on_of_nodup_map hnodup hg hf hname]
    rfl

end Fields

/-! ## When a check succeeds -/

namespace Checked

theorem within_eq_ok_iff {s : Step} {x : Checked α} {a : α} : within s x = .ok a ↔ x = .ok a := by
  cases x with
  | ok b => exact Iff.rfl
  | error ps => exact ⟨nofun, nofun⟩

theorem both_eq_ok_iff {x : Checked α} {y : Checked β} {p : α × β} :
    both x y = .ok p ↔ x = .ok p.1 ∧ y = .ok p.2 := by
  cases x with
  | ok a =>
    cases y with
    | ok b => simp [both, Prod.ext_iff]
    | error qs => simp [both]
  | error ps => cases y <;> simp [both]

theorem map_eq_ok_iff {x : Checked α} {f : α → β} {b : β} :
    x.map f = .ok b ↔ ∃ a, x = .ok a ∧ f a = b := by
  cases x with
  | ok a => simp [Except.map]
  | error ps => simp [Except.map]

theorem required_eq_ok_iff {fs : Fields} {name : Text} {check : Datum → Checked α} {a : α} :
    required fs name check = .ok a ↔ ∃ v, fs.get? name = some v ∧ check v = .ok a := by
  unfold required
  rw [within_eq_ok_iff]
  cases fs.get? name with
  | some v => simp
  | none => simp [defect]

theorem optional_eq_ok_iff {fs : Fields} {name : Text} {fallback : α} {check : Datum → Checked α}
    {a : α} :
    optional fs name fallback check = .ok a ↔
      (∃ v, fs.get? name = some v ∧ check v = .ok a) ∨
        (fs.get? name = none ∧ fallback = a) := by
  unfold optional
  cases fs.get? name with
  | some v => simp [within_eq_ok_iff]
  | none => simp

/-- The items of a list are checked one by one; where the count starts matters to the problems
alone. -/
theorem items_eq_ok_iff {check : Datum → Checked α} {n : Nat} {vs : List Datum} {as : List α} :
    items check n vs = .ok as ↔ List.Forall₂ (fun v a => check v = .ok a) vs as := by
  induction vs generalizing n as with
  | nil => simp [items, eq_comm]
  | cons v vs ih =>
    rw [items, map_eq_ok_iff, List.forall₂_cons_left_iff]
    constructor
    · rintro ⟨⟨a, as⟩, hboth, rfl⟩
      obtain ⟨hhead, htail⟩ := both_eq_ok_iff.1 hboth
      exact ⟨a, as, within_eq_ok_iff.1 hhead, ih.1 htail, rfl⟩
    · rintro ⟨a, as, hhead, htail, rfl⟩
      exact ⟨(a, as), both_eq_ok_iff.2 ⟨within_eq_ok_iff.2 hhead, ih.2 htail⟩, rfl⟩

end Checked

/-! ## Standard forms -/

/-- A field of a kind of record. -/
structure FieldRule where
  name : Text
  /-- the standard form of its default; none if the field has to be there -/
  standard : Option Datum
  /-- the standard forms of its values -/
  as : Datum → Datum → Prop

/-- What a record of some fields has in a field: the standard form of the value given, or the
default. -/
def FieldRule.Gives (r : FieldRule) (fs : Fields) (d : Datum) : Prop :=
  match fs.get? r.name with
  | some v => r.as v d
  | none => r.standard = some d

namespace Datum

/-- A text, given as it is or as its bytes. -/
inductive AsText : Datum → Datum → Prop where
  | text (t : Text) : AsText (.text t) (.text t)
  | bytes {bs : List UInt8} {t : Text} (h : Utf8.decode? bs = some t) : AsText (.bytes bs) (.text t)

/-- An integer, given as it is, as a truth value, as a whole double of the size of a word, or as
a text that stands for it. -/
inductive AsInteger : Datum → Datum → Prop where
  | bool (b : Bool) : AsInteger (.bool b) (.int (if b then 1 else 0))
  | int (n : Int) : AsInteger (.int n) (.int n)
  | real {x : Double} {n : Int} (hwhole : x.toInt? = some n)
      (hbelow : -Integer.wordBound < n) (habove : n < Integer.wordBound) :
      AsInteger (.real x) (.int n)
  | text {t : Text} {n : Int} (h : Integer.ofSetting t = .ok n) : AsInteger (.text t) (.int n)
  | bytes {bs : List UInt8} {t : Text} {n : Int} (hdecode : Utf8.decode? bs = some t)
      (h : Integer.ofSetting t = .ok n) : AsInteger (.bytes bs) (.int n)

/-- A standard form that is one of the values written of some type. -/
def AsOneOf (as : Datum → Datum → Prop) (write : β → Datum) (v d : Datum) : Prop :=
  as v d ∧ ∃ b, write b = d

/-- A list of standard forms, item by item. -/
inductive AsList (as : Datum → Datum → Prop) : Datum → Datum → Prop where
  | list {vs ds : List Datum} (h : List.Forall₂ as vs ds) : AsList as (.list vs) (.list ds)

/-- No value, or the standard form of one. -/
inductive AsOptional (as : Datum → Datum → Prop) : Datum → Datum → Prop where
  | null : AsOptional as .null .null
  | given {v d : Datum} (hv : v ≠ .null) (h : as v d) : AsOptional as v d

/-- A record of any fields, as it is. -/
inductive AsRecord : Datum → Datum → Prop where
  | record (fs : Fields) : AsRecord (.record fs) (.record fs)

/-- A record of a kind: the fields of the rules in their order, each with what is given for it,
and no others. -/
inductive AsModel (rules : List FieldRule) : Datum → Datum → Prop where
  | record {fs whole : Fields}
      (h : List.Forall₂ (fun r f => f.1 = r.name ∧ r.Gives fs f.2) rules whole) :
      AsModel rules (.record fs) (.record whole)

/-! ## The law of a check -/

/-- A check takes the values that have a standard form, and no others; the object is written as
that form; and what is written of an object is read as that object. -/
structure Reads (check : Datum → Checked α) (write : α → Datum) (as : Datum → Datum → Prop) :
    Prop where
  standard : ∀ v d, as v d ↔ ∃ a, check v = .ok a ∧ write a = d
  again : ∀ a, check (write a) = .ok a

namespace Reads

variable {check : Datum → Checked α} {write : α → Datum} {as : Datum → Datum → Prop}

theorem write_injective (h : Reads check write as) : Function.Injective write := by
  intro a b hab
  have hb := h.again b
  rw [← hab, h.again a] at hb
  exact Except.ok.inj hb

/-- A value is read as an object exactly if the object is written as the value's standard form. -/
theorem eq_ok_iff (h : Reads check write as) {v : Datum} {a : α} :
    check v = .ok a ↔ as v (write a) := by
  rw [h.standard]
  constructor
  · intro ha
    exact ⟨a, ha, rfl⟩
  · rintro ⟨b, hb, hba⟩
    rwa [h.write_injective hba] at hb

/-- A check that takes fewer values, and makes objects of a narrower type of them. -/
theorem oneOf (h : Reads check write as) {check' : Datum → Checked β} (forget : β → α)
    (hcheck : ∀ v b, check' v = .ok b ↔ check v = .ok (forget b)) :
    Reads check' (fun b => write (forget b)) (AsOneOf as fun b => write (forget b)) where
  standard v d := by
    constructor
    · rintro ⟨hd, b, rfl⟩
      exact ⟨b, (hcheck v b).2 (h.eq_ok_iff.2 hd), rfl⟩
    · rintro ⟨b, hb, rfl⟩
      exact ⟨h.eq_ok_iff.1 ((hcheck v b).1 hb), b, rfl⟩
  again b := (hcheck _ b).2 (h.again (forget b))

/-- Values that are read one by one, and their standard forms. -/
theorem forall₂_iff (h : Reads check write as) {vs ds : List Datum} :
    List.Forall₂ as vs ds ↔
      ∃ xs, List.Forall₂ (fun v a => check v = .ok a) vs xs ∧ xs.map write = ds := by
  constructor
  · intro hds
    induction hds with
    | nil => exact ⟨[], .nil, rfl⟩
    | cons hd _ ih =>
      obtain ⟨a, ha, rfl⟩ := (h.standard _ _).1 hd
      obtain ⟨xs, hxs, rfl⟩ := ih
      exact ⟨a :: xs, .cons ha hxs, rfl⟩
  · rintro ⟨xs, hxs, rfl⟩
    rw [List.forall₂_map_right_iff]
    exact hxs.imp fun v a => h.eq_ok_iff.1

/-- A check that takes lists, and checks them item by item. -/
theorem ofItems (h : Reads check write as) {checkItems : Datum → Checked (List α)}
    (hitems : ∀ v xs, checkItems v = .ok xs ↔
      ∃ vs, v = .list vs ∧ List.Forall₂ (fun v a => check v = .ok a) vs xs) :
    Reads checkItems (fun xs => .list (xs.map write)) (AsList as) where
  standard v d := by
    constructor
    · rintro ⟨hds⟩
      obtain ⟨xs, hxs, rfl⟩ := h.forall₂_iff.1 hds
      exact ⟨xs, (hitems _ _).2 ⟨_, rfl, hxs⟩, rfl⟩
    · rintro ⟨xs, hv, rfl⟩
      obtain ⟨vs, rfl, hxs⟩ := (hitems _ _).1 hv
      exact .list (h.forall₂_iff.2 ⟨xs, hxs, rfl⟩)
  again xs := by
    refine (hitems _ _).2 ⟨xs.map write, rfl, ?_⟩
    rw [List.forall₂_map_left_iff]
    exact List.forall₂_same.2 fun a _ => h.again a

theorem fixedList (h : Reads check write as) :
    Reads (checkFixedList check) (fun xs => .list (xs.map write)) (AsList as) := by
  refine h.ofItems fun v xs => ?_
  cases v with
  | list vs => simp [checkFixedList, items_eq_ok_iff]
  | _ => simp [checkFixedList, defect]

theorem list (h : Reads check write as) :
    Reads (checkList check) (fun xs => .list (xs.map write)) (AsList as) := by
  refine h.ofItems fun v xs => ?_
  cases v with
  | list vs => simp [checkList, items_eq_ok_iff]
  | _ => simp [checkList, defect]

theorem checkOptional_eq {v : Datum} (hv : v ≠ .null) :
    checkOptional check v = (check v).map some := by
  cases v with
  | null => exact absurd rfl hv
  | _ => rfl

/-- A value that may be missing, as long as no object is written as a missing one. -/
theorem optional (h : Reads check write as) (hnull : ∀ a, write a ≠ .null) :
    Reads (checkOptional check) (fun x => (x.map write).getD .null) (AsOptional as) where
  standard v d := by
    constructor
    · rintro (_ | ⟨hv, hd⟩)
      · exact ⟨none, rfl, rfl⟩
      · obtain ⟨a, ha, rfl⟩ := (h.standard _ _).1 hd
        exact ⟨some a, by rw [checkOptional_eq hv, ha]; rfl, rfl⟩
    · rintro ⟨x, hx, rfl⟩
      by_cases hv : v = .null
      · subst hv
        cases hx
        exact .null
      · rw [checkOptional_eq hv] at hx
        obtain ⟨a, ha, rfl⟩ := map_eq_ok_iff.1 hx
        exact .given hv (h.eq_ok_iff.1 ha)
  again x := by
    cases x with
    | none => rfl
    | some a =>
      change checkOptional check (write a) = .ok (some a)
      rw [checkOptional_eq (hnull a), h.again]
      rfl

theorem text : Reads checkText .text AsText where
  standard v d := by
    constructor
    · rintro (t | hdecode)
      · exact ⟨t, rfl, rfl⟩
      · exact ⟨_, by simp only [checkText, hdecode], rfl⟩
    · rintro ⟨t, ht, rfl⟩
      cases v with
      | text t => cases ht; exact .text _
      | bytes bs =>
        simp only [checkText] at ht
        split at ht
        · next hdecode => cases ht; exact .bytes hdecode
        · cases ht
      | _ => cases ht
  again _ := rfl

theorem record : Reads checkRecord .record AsRecord where
  standard v d := by
    constructor
    · rintro ⟨fs⟩
      exact ⟨fs, rfl, rfl⟩
    · rintro ⟨fs, hfs, rfl⟩
      cases v with
      | record fs => cases hfs; exact .record _
      | _ => cases hfs
  again _ := rfl

theorem checkNumeral_eq_ok_iff {t : Text} {n : Int} :
    checkNumeral t = .ok n ↔ Integer.ofSetting t = .ok n := by
  unfold checkNumeral
  cases Integer.ofSetting t with
  | ok m => simp
  | error r => cases r <;> simp [defect]

theorem checkInteger_real_eq_ok_iff {x : Double} {n : Int} :
    checkInteger (.real x) = .ok n ↔
      x.toInt? = some n ∧ -Integer.wordBound < n ∧ n < Integer.wordBound := by
  cases x with
  | finite s e f =>
    simp only [checkInteger]
    cases (Double.finite s e f).toInt? with
    | none => simp [defect]
    | some m =>
      by_cases hword : -Integer.wordBound < m ∧ m < Integer.wordBound
      · simp only [if_pos hword, Except.ok.injEq, Option.some.injEq]
        constructor
        · rintro rfl
          exact ⟨rfl, hword⟩
        · exact And.left
      · simp only [if_neg hword, defect, Option.some.injEq, reduceCtorEq, false_iff]
        rintro ⟨rfl, hbounds⟩
        exact hword hbounds
  | _ => simp [checkInteger, Double.toInt?, defect]

theorem integer : Reads checkInteger .int AsInteger where
  standard v d := by
    constructor
    · rintro (b | n | ⟨hwhole, hbelow, habove⟩ | hread | ⟨hdecode, hread⟩)
      · exact ⟨_, rfl, rfl⟩
      · exact ⟨n, rfl, rfl⟩
      · exact ⟨_, checkInteger_real_eq_ok_iff.2 ⟨hwhole, hbelow, habove⟩, rfl⟩
      · exact ⟨_, checkNumeral_eq_ok_iff.2 hread, rfl⟩
      · exact ⟨_, by simp only [checkInteger, hdecode, checkNumeral_eq_ok_iff, hread], rfl⟩
    · rintro ⟨n, hn, rfl⟩
      cases v with
      | bool b => cases hn; exact .bool b
      | int m => cases hn; exact .int _
      | real x =>
        obtain ⟨hwhole, hbelow, habove⟩ := checkInteger_real_eq_ok_iff.1 hn
        exact .real hwhole hbelow habove
      | text t => exact .text (checkNumeral_eq_ok_iff.1 hn)
      | bytes bs =>
        simp only [checkInteger] at hn
        split at hn
        · next hdecode => exact .bytes hdecode (checkNumeral_eq_ok_iff.1 hn)
        · cases hn
      | _ => cases hn
  again _ := rfl

end Reads

/-! ## Fields -/

/-- The law of a field: the check of a record's fields finds exactly what the rule gives, and finds
an object again where it is given as it is written. -/
structure ReadsField (read : Fields → Checked α) (write : α → Datum) (r : FieldRule) : Prop where
  standard : ∀ fs d, r.Gives fs d ↔ ∃ a, read fs = .ok a ∧ write a = d
  again : ∀ fs a, fs.get? r.name = some (write a) → read fs = .ok a

/-- The law of some fields. -/
structure ReadsFields (read : Fields → Checked α) (write : α → Fields) (rules : List FieldRule) :
    Prop where
  standard : ∀ fs whole, List.Forall₂ (fun r f => f.1 = r.name ∧ r.Gives fs f.2) rules whole ↔
    ∃ a, read fs = .ok a ∧ write a = whole
  again : ∀ fs a, (∀ f ∈ write a, fs.get? f.1 = some f.2) → read fs = .ok a
  names : ∀ a, (write a).map (·.1) = rules.map (·.name)

section

variable {check : Datum → Checked α} {write : α → Datum} {as : Datum → Datum → Prop}

/-- A field that has to be there. -/
theorem Reads.required (h : Reads check write as) (name : Text) :
    ReadsField (fun fs => Checked.required fs name check) write ⟨name, none, as⟩ where
  standard fs d := by
    unfold FieldRule.Gives
    simp only [required_eq_ok_iff]
    cases fs.get? name with
    | some v => simp [h.standard]
    | none => simp
  again fs a hget := required_eq_ok_iff.2 ⟨_, hget, h.again a⟩

/-- A field with a default. -/
theorem Reads.optionalField (h : Reads check write as) (name : Text) (fallback : α) :
    ReadsField (fun fs => Checked.optional fs name fallback check) write
      ⟨name, some (write fallback), as⟩ where
  standard fs d := by
    unfold FieldRule.Gives
    simp only [optional_eq_ok_iff]
    cases fs.get? name with
    | some v => simp [h.standard]
    | none => simp
  again fs a hget := optional_eq_ok_iff.2 (.inl ⟨_, hget, h.again a⟩)

end

namespace ReadsFields

variable {γ : Type} {read : Fields → Checked α} {rules : List FieldRule}

/-- The last field. -/
theorem last {write : α → Datum} {r : FieldRule} (h : ReadsField read write r) :
    ReadsFields read (fun a => [(r.name, write a)]) [r] where
  standard fs whole := by
    rw [List.forall₂_cons_left_iff]
    simp only [List.forall₂_nil_left_iff]
    constructor
    · rintro ⟨⟨k, d⟩, _, ⟨rfl, hd⟩, rfl, rfl⟩
      obtain ⟨a, ha, rfl⟩ := (h.standard _ _).1 hd
      exact ⟨a, ha, rfl⟩
    · rintro ⟨a, ha, rfl⟩
      exact ⟨_, _, ⟨rfl, (h.standard _ _).2 ⟨a, ha, rfl⟩⟩, rfl, rfl⟩
  again fs a hget := h.again fs a (hget _ (List.mem_singleton.2 rfl))
  names _ := rfl

/-- A field in front of others. -/
theorem cons {readOne : Fields → Checked β} {writeOne : β → Datum} {r : FieldRule}
    {write : α → Fields} (h : ReadsField readOne writeOne r) (hs : ReadsFields read write rules) :
    ReadsFields (fun fs => both (readOne fs) (read fs))
      (fun p => (r.name, writeOne p.1) :: write p.2) (r :: rules) where
  standard fs whole := by
    rw [List.forall₂_cons_left_iff]
    constructor
    · rintro ⟨⟨k, d⟩, rest, ⟨rfl, hd⟩, hrest, rfl⟩
      obtain ⟨b, hb, rfl⟩ := (h.standard _ _).1 hd
      obtain ⟨a, ha, rfl⟩ := (hs.standard _ _).1 hrest
      exact ⟨(b, a), both_eq_ok_iff.2 ⟨hb, ha⟩, rfl⟩
    · rintro ⟨⟨b, a⟩, hboth, rfl⟩
      obtain ⟨hb, ha⟩ := both_eq_ok_iff.1 hboth
      exact ⟨_, _, ⟨rfl, (h.standard _ _).2 ⟨b, hb, rfl⟩⟩, (hs.standard _ _).2 ⟨a, ha, rfl⟩, rfl⟩
  again fs p hget := by
    have hone := h.again fs p.1 (hget _ List.mem_cons_self)
    have hrest := hs.again fs p.2 fun f hf => hget f (List.mem_cons_of_mem _ hf)
    exact both_eq_ok_iff.2 ⟨hone, hrest⟩
  names p := congrArg (r.name :: ·) (hs.names p.2)

/-- The values of the fields put together to an object, and taken apart. -/
theorem map {write : α → Fields} (h : ReadsFields read write rules) (make : α → γ) (parts : γ → α)
    (hmake : ∀ c, make (parts c) = c) (hparts : ∀ a, parts (make a) = a) :
    ReadsFields (fun fs => (read fs).map make) (fun c => write (parts c)) rules where
  standard fs whole := by
    rw [h.standard]
    simp only [map_eq_ok_iff]
    constructor
    · rintro ⟨a, ha, rfl⟩
      exact ⟨make a, ⟨a, ha, rfl⟩, by rw [hparts]⟩
    · rintro ⟨_, ⟨a, ha, rfl⟩, rfl⟩
      exact ⟨a, ha, by rw [hparts]⟩
  again fs c hget := map_eq_ok_iff.2 ⟨parts c, h.again fs _ hget, hmake c⟩
  names c := h.names (parts c)

end ReadsFields

end Datum

/-- The law of a record of a kind, from that of its fields: they have different names, so each is
found where it was written. -/
theorem Datum.ReadsFields.model {read : Fields → Checked α} {write : α → Fields}
    {rules : List FieldRule} (h : ReadsFields read write rules)
    (hnodup : (rules.map (·.name)).Nodup) (kind : Text) :
    Reads (checkModel kind read) (fun a => .record (write a)) (AsModel rules) where
  standard v d := by
    constructor
    · rintro ⟨hwhole⟩
      obtain ⟨a, ha, rfl⟩ := (h.standard _ _).1 hwhole
      exact ⟨a, ha, rfl⟩
    · rintro ⟨a, ha, rfl⟩
      cases v with
      | record fs => exact .record ((h.standard _ _).2 ⟨a, ha, rfl⟩)
      | _ => cases ha
  again a := by
    refine h.again _ a fun f hf => Fields.get?_of_mem ?_ hf
    rw [h.names a]
    exact hnodup

end PlainSearch
