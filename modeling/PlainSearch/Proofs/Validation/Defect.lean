/-
  Proofs/Validation/Defect.lean --- what a check can find wrong with a value.

  WHAT THIS FILE IS FOR.  A check that is put together of checks finds what these find,
  elsewhere perhaps but nothing else.  So what can be wrong with a value is read off
  the checks of its parts (`Checked.Only`).

  Of settings that hold a text and an integer only two things can be wrong: the text is
  empty, or the integer is not positive (`Settings.only_check_fieldsOf`).  Each is told in
  one line.
-/
import PlainSearch.Settings

set_option autoImplicit false

namespace PlainSearch

/-- A value that is found under a name is given under it. -/
theorem Fields.mem_of_get? {fs : Fields} {name : Text} {v : Datum}
    (h : fs.get? name = some v) : (name, v) ∈ fs := by
  obtain ⟨⟨k, v⟩, hfind, rfl⟩ := Option.map_eq_some_iff.1 h
  have hname : k = name := by simpa using List.find?_some hfind
  rw [← hname]
  exact List.mem_reverse.1 (List.mem_of_find?_eq_some hfind)

namespace Checked

variable {α β : Type} {ds : List Defect}

/-- Whatever is wrong with a value is one of the given defects. -/
def Only (ds : List Defect) (x : Checked α) : Prop :=
  ∀ ps, x = .error ps → ∀ p ∈ ps, p.defect ∈ ds

namespace Only

theorem ok (a : α) : Only ds (.ok a : Checked α) := nofun

theorem defect {d : Defect} (h : d ∈ ds) : Only ds (Checked.defect d : Checked α) := by
  intro ps hps p hp
  cases hps
  cases List.mem_singleton.1 hp
  exact h

theorem within {x : Checked α} (h : Only ds x) (s : Step) : Only ds (Checked.within s x) := by
  intro ps hps p hp
  cases x with
  | ok a => cases hps
  | error qs =>
    cases hps
    obtain ⟨q, hq, rfl⟩ := List.mem_map.1 hp
    exact h qs rfl q hq

theorem both {x : Checked α} {y : Checked β} (hx : Only ds x) (hy : Only ds y) :
    Only ds (Checked.both x y) := by
  intro ps hps p hp
  cases x with
  | ok a =>
    cases y with
    | ok b => cases hps
    | error qs =>
      cases hps
      exact hy _ rfl p hp
  | error qs =>
    cases y with
    | ok b =>
      cases hps
      exact hx _ rfl p hp
    | error rs =>
      cases hps
      rcases List.mem_append.1 hp with hp | hp
      · exact hx _ rfl p hp
      · exact hy _ rfl p hp

theorem map {x : Checked α} (h : Only ds x) (f : α → β) : Only ds (x.map f) := by
  intro ps hps p hp
  cases x with
  | ok a => cases hps
  | error _ =>
    cases hps
    exact h _ rfl p hp

theorem optional {fs : Fields} {name : Text} {fallback : α} {check : Datum → Checked α}
    (h : ∀ v, fs.get? name = some v → Only ds (check v)) :
    Only ds (Checked.optional fs name fallback check) := by
  unfold Checked.optional
  split
  · next v hv => exact (h v hv).within _
  · exact ok _

end Only

end Checked

namespace Settings

open Checked

/-- What is wrong with settings of a text and an integer. -/
def defects : List Defect := [.emptyText, .notPositive]

/-- Each of these is told in one line. -/
theorem newline_not_mem_message : ∀ d ∈ defects, '\n' ∉ d.message := by decide

theorem only_checkSuffix (t : Text) : Only defects (checkSuffix (.text t)) := by
  simp only [checkSuffix, Datum.checkText]
  split
  · exact Only.ok _
  · exact Only.defect (by decide)

theorem only_checkPositive (n : Int) : Only defects (checkPositive (.int n)) := by
  simp only [checkPositive, Datum.checkInteger]
  split
  · exact Only.ok _
  · exact Only.defect (by decide)

/-- The fields of settings of a suffix and a sample size. -/
def fieldsOf (suffix : Option Text) (size : Option Int) : Fields :=
  given "mirror_suffix".toList suffix ++ size.toList.map fun n => ("sample_size".toList, .int n)

theorem name_of_get?_fieldsOf {suffix : Option Text} {size : Option Int} {name : Text} {v : Datum}
    (h : (fieldsOf suffix size).get? name = some v) :
    (name = "mirror_suffix".toList ∧ ∃ t, v = .text t) ∨
      (name = "sample_size".toList ∧ ∃ n, v = .int n) := by
  rcases List.mem_append.1 (Fields.mem_of_get? h) with hmem | hmem
  · obtain ⟨t, -, heq⟩ := List.mem_map.1 hmem
    cases heq
    exact .inl ⟨rfl, t, rfl⟩
  · obtain ⟨n, -, heq⟩ := List.mem_map.1 hmem
    cases heq
    exact .inr ⟨rfl, n, rfl⟩

/-- Of settings of a suffix and a sample size, the suffix may be empty, and the sample size may not
be positive. -/
theorem only_check_fieldsOf (suffix : Option Text) (size : Option Int) :
    Only defects (check (.record (fieldsOf suffix size))) := by
  refine Only.map (Only.both (Only.optional fun v hv => ?_)
    (Only.both (Only.optional fun v hv => ?_) (Only.optional fun v hv => ?_))) _
  · rcases name_of_get?_fieldsOf hv with ⟨-, t, rfl⟩ | ⟨hname, -⟩
    · exact only_checkSuffix t
    · exact absurd hname (by decide)
  · rcases name_of_get?_fieldsOf hv with ⟨hname, -⟩ | ⟨-, n, rfl⟩
    · exact absurd hname (by decide)
    · exact only_checkPositive n
  · rcases name_of_get?_fieldsOf hv with ⟨hname, -⟩ | ⟨hname, -⟩
    · exact absurd hname (by decide)
    · exact absurd hname (by decide)

end Settings
end PlainSearch
