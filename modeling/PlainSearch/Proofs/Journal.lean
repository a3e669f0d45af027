/-
  Proofs/Journal.lean --- what a computation in steps leaves in the journal.

  WHAT THIS FILE IS FOR.  `Journal.lean` says what becomes of the outcomes when one
  computation follows another; this file says what becomes of the entries.

      journal_bind     a sequence leaves the entries of its first part, and those of
                       the second if the first succeeds;
      SilentOn         a computation leaves no entry from a part of the program, and
                       a sequence leaves none if its parts do not.

  Computations obey the laws of sequences with their entries included, so two
  programs that differ in what they make of a value at their ends leave the same
  entries (`journal_map`).
-/
import PlainSearch.Journal

set_option autoImplicit false

namespace PlainSearch.Traced

variable {α β γ : Type}

theorem journal_bind (x : Traced α) (f : α → Traced β) :
    (x >>= f).journal = x.journal ++ match x.outcome with
      | .ok a => (f a).journal
      | .error _ => [] := by
  show (Traced.bind x f).journal = _
  unfold Traced.bind
  cases x.outcome with
  | ok a => rfl
  | error e => exact (List.append_nil _).symm

theorem ext_of {x y : Traced α} (hjournal : x.journal = y.journal)
    (houtcome : x.outcome = y.outcome) : x = y := by
  cases x
  cases y
  cases hjournal
  cases houtcome
  rfl

/-! ## Laws of sequences -/

theorem bind_assoc_eq (x : Traced α) (f : α → Traced β) (g : β → Traced γ) :
    (x >>= f >>= g) = x >>= fun a => f a >>= g := by
  apply ext_of
  · simp only [journal_bind, outcome_bind, List.append_assoc]
    cases x.outcome <;> rfl
  · simp only [outcome_bind]
    cases x.outcome <;> rfl

theorem map_eq_bind (f : α → β) (x : Traced α) :
    f <$> x = x >>= fun a => Pure.pure (f a) := rfl

theorem map_bind_eq (f : β → γ) (x : Traced α) (g : α → Traced β) :
    f <$> (x >>= g) = x >>= fun a => f <$> g a :=
  bind_assoc_eq x g _

theorem journal_map (f : α → β) (x : Traced α) : (f <$> x).journal = x.journal := by
  rw [map_eq_bind, journal_bind]
  cases x.outcome <;> exact List.append_nil _

theorem outcome_map (f : α → β) (x : Traced α) : (f <$> x).outcome = x.outcome.map f := by
  rw [map_eq_bind, outcome_bind]
  cases x.outcome <;> rfl

theorem outcome_map_eq_ok_iff {f : α → β} {x : Traced α} {b : β} :
    (f <$> x).outcome = .ok b ↔ ∃ a, x.outcome = .ok a ∧ f a = b := by
  rw [outcome_map]
  cases x.outcome <;> simp [Except.map]

theorem outcome_map_eq_error_iff {f : α → β} {x : Traced α} {e : Fault} :
    (f <$> x).outcome = .error e ↔ x.outcome = .error e := by
  rw [outcome_map]
  cases x.outcome <;> simp [Except.map]

/-! ## Parts of the program that are not heard of -/

/-- A computation leaves no entry that comes from a part of the program. -/
def SilentOn (s : Source) (x : Traced α) : Prop := ∀ e ∈ x.journal, e.source ≠ s

namespace SilentOn

variable {s : Source}

theorem pure (a : α) : SilentOn s (Pure.pure a : Traced α) := nofun

theorem ofExcept (x : Except Fault α) : SilentOn s (Traced.ofExcept x) := nofun

theorem recordAll {es : List Entry} (h : ∀ e ∈ es, e.source ≠ s) :
    SilentOn s (Traced.recordAll es) := h

theorem record {l : Level} {source : Source} {m : Text} (h : source ≠ s) :
    SilentOn s (Traced.record l source m) := by
  intro e he
  cases List.mem_singleton.1 he
  exact h

theorem attempt {x : Traced α} (h : SilentOn s x) : SilentOn s x.attempt := h

theorem bind {x : Traced α} {f : α → Traced β} (hx : SilentOn s x)
    (hf : ∀ a, SilentOn s (f a)) : SilentOn s (x >>= f) := by
  intro e he
  rw [journal_bind, List.mem_append] at he
  rcases he with he | he
  · exact hx e he
  · cases hout : x.outcome with
    | ok a =>
      rw [hout] at he
      exact hf a e he
    | error f =>
      rw [hout] at he
      cases he

theorem not_mem {x : Traced α} (h : SilentOn s x) {e : Entry} (he : e.source = s) :
    e ∉ x.journal := fun hmem => h e hmem he

end SilentOn

variable {x : Traced α} {f : α → Traced β} {e : Entry}

/-- What is heard of a part in a sequence whose second part is silent on it is heard in the
first. -/
theorem mem_journal_bind_iff_left (hf : ∀ a, SilentOn e.source (f a)) :
    e ∈ (x >>= f).journal ↔ e ∈ x.journal := by
  rw [journal_bind, List.mem_append, or_iff_left_iff_imp]
  intro he
  cases hout : x.outcome with
  | ok a =>
    rw [hout] at he
    exact absurd he ((hf a).not_mem rfl)
  | error fault =>
    rw [hout] at he
    cases he

/-- What is heard of a part in a sequence whose first part is silent on it is heard in the second,
after a value of the first. -/
theorem mem_journal_bind_iff_right (hx : SilentOn e.source x) :
    e ∈ (x >>= f).journal ↔ ∃ a, x.outcome = .ok a ∧ e ∈ (f a).journal := by
  rw [journal_bind, List.mem_append, or_iff_right (hx.not_mem rfl)]
  cases x.outcome <;> simp

end PlainSearch.Traced
