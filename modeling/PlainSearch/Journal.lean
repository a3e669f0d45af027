/-
  Journal.lean --- log entries, and computations that leave some behind.

  WHAT THIS FILE IS FOR.  Discovery and planning tell what they decided.  A
  `Traced` computation yields the entries it left, oldest first, and an outcome: a
  value or a fault.  Entries left before a fault are kept.  The outcome never
  depends on the entries, so a statement about results may forget them
  (`outcome_bind`).
-/
import PlainSearch.Fault

set_option autoImplicit false

namespace PlainSearch

/-- How much an entry matters. -/
inductive Level where
  | debug
  | info
  | warning
  deriving DecidableEq, Repr

/-- The part of the program that an entry comes from. -/
inductive Source where
  | requests
  | results
  | store
  | inference
  | discovery
  deriving DecidableEq, Repr

namespace Level

/-- The name of a level in log lines. -/
def name : Level → Text
  | .debug => "DEBUG".toList
  | .info => "INFO".toList
  | .warning => "WARNING".toList

end Level

namespace Source

/-- The name of a source in log lines. -/
def name : Source → Text
  | .requests => "nlfts.query.translator".toList
  | .results => "nlfts.query.executor".toList
  | .store => "nlfts.core.store".toList
  | .inference => "nlfts.schema.inference".toList
  | .discovery => "nlfts.schema.catalog".toList

end Source

/-- A log entry. -/
structure Entry where
  level : Level
  source : Source
  message : Text
  deriving DecidableEq, Repr

/-- An entry as a log line. -/
def Entry.line (e : Entry) : Text :=
  e.level.name ++ [' '] ++ e.source.name ++ [':', ' '] ++ e.message

/-- A computation that leaves log entries behind, and its outcome. -/
structure Traced (α : Type) where
  /-- the entries, oldest first -/
  journal : List Entry
  outcome : Except Fault α

namespace Traced

variable {α β : Type}

/-- A value, with nothing to tell. -/
def pure (x : α) : Traced α := ⟨[], .ok x⟩

/-- One computation after another; a fault ends them. -/
def bind (x : Traced α) (f : α → Traced β) : Traced β :=
  match x.outcome with
  | .ok a => ⟨x.journal ++ (f a).journal, (f a).outcome⟩
  | .error e => ⟨x.journal, .error e⟩

instance : Monad Traced where
  pure := Traced.pure
  bind := Traced.bind

/-- A result that leaves no entries. -/
def ofExcept (x : Except Fault α) : Traced α := ⟨[], x⟩

/-- Leaves an entry. -/
def record (level : Level) (source : Source) (message : Text) : Traced Unit :=
  ⟨[⟨level, source, message⟩], .ok ()⟩

/-- Leaves several entries. -/
def recordAll (entries : List Entry) : Traced Unit := ⟨entries, .ok ()⟩

/-- Gives a fault. -/
def fail (f : Fault) : Traced α := ⟨[], .error f⟩

/-- A computation whose reportable failures become values; other faults stay faults. -/
def attempt (x : Traced α) : Traced (Except SearchError α) :=
  ⟨x.journal, match x.outcome with
    | .ok a => .ok (.ok a)
    | .error (.search e) => .ok (.error e)
    | .error f => .error f⟩

@[simp] theorem outcome_pure (x : α) : (Pure.pure x : Traced α).outcome = .ok x := rfl

@[simp] theorem outcome_ofExcept (x : Except Fault α) : (ofExcept x).outcome = x := rfl

@[simp] theorem outcome_record (l : Level) (s : Source) (m : Text) :
    (record l s m).outcome = .ok () := rfl

@[simp] theorem outcome_recordAll (es : List Entry) : (recordAll es).outcome = .ok () := rfl

@[simp] theorem outcome_fail (f : Fault) : (fail f : Traced α).outcome = .error f := rfl

theorem outcome_attempt (x : Traced α) :
    x.attempt.outcome = match x.outcome with
      | .ok a => .ok (.ok a)
      | .error (.search e) => .ok (.error e)
      | .error f => .error f := rfl

/-- The outcome of a sequence depends on the outcomes of its parts alone. -/
theorem outcome_bind (x : Traced α) (f : α → Traced β) :
    (x >>= f).outcome = match x.outcome with
      | .ok a => (f a).outcome
      | .error e => .error e := by
  show (Traced.bind x f).outcome = _
  unfold Traced.bind
  cases x.outcome <;> rfl

/-- A sequence succeeds if its parts do. -/
theorem outcome_bind_eq_ok_iff {x : Traced α} {f : α → Traced β} {b : β} :
    (x >>= f).outcome = .ok b ↔ ∃ a, x.outcome = .ok a ∧ (f a).outcome = .ok b := by
  rw [outcome_bind]
  cases x.outcome <;> simp

/-- The fault of a sequence is that of its first part, or of the second after the first. -/
theorem outcome_bind_eq_error_iff {x : Traced α} {f : α → Traced β} {e : Fault} :
    (x >>= f).outcome = .error e ↔
      x.outcome = .error e ∨ ∃ a, x.outcome = .ok a ∧ (f a).outcome = .error e := by
  rw [outcome_bind]
  cases x.outcome <;> simp

end Traced
end PlainSearch
