/-
  Proofs/CommandLine/Outcome.lean --- the ways in which a call may end.

  WHAT THIS FILE IS FOR.  A call that is carried out and does not write for a screen is to
  end in one of three ways:

      Tells r          with code 0, and the document of a result on the output;
      TellsFailure f   with code 1, and the document of a failure there;
      Refuses reason   with code 1, nothing on the output, and one message on the
                       error stream.

  No call ends in two of them (`EndsIn.unique`).  Which of the first two it is, the command
  decides that runs (`tells_conclude`, `tellsFailure_conclude`), and whether one runs at
  all, the request and the database that are named (`onRequest_of_ok`).  A document
  also tells its result apart from others, as far as it is needed here: what is not
  understood from the rest, and one statement from another (`Tells.statement_inj`).
-/
import Mathlib.Logic.ExistsUnique
import PlainSearch.CommandLine.Call
import PlainSearch.Proofs.Json.String

set_option autoImplicit false

namespace PlainSearch.CommandLine

/-! ## Ways to end -/

namespace Outcome

/-- The call is carried out, and tells its result. -/
structure Tells (x : Outcome) (r : Result) : Prop where
  exitCode : x.exitCode = 0
  stdout : x.stdout = Json.document r.toDatum ++ ['\n']
  escaped : x.escaped = none

/-- The call fails, and tells its failure. -/
structure TellsFailure (x : Outcome) (f : Fault) : Prop where
  exitCode : x.exitCode = 1
  stdout : x.stdout = Json.document f.report ++ ['\n']
  escaped : x.escaped = none

/-- The call is not carried out, and tells why. -/
structure Refuses (x : Outcome) (reason : Text) : Prop where
  exitCode : x.exitCode = 1
  stdout : x.stdout = []
  stderr : x.stderr = "Error: ".toList ++ reason ++ ['\n']
  escaped : x.escaped = none

theorem refuses_refused (reason : Text) : (refused reason).Refuses reason := ⟨rfl, rfl, rfl, rfl⟩

namespace Tells

variable {x : Outcome}

theorem document_eq {r r' : Result} (h : x.Tells r) (h' : x.Tells r') :
    Json.document r.toDatum = Json.document r'.toDatum :=
  List.append_cancel_right (h.stdout.symm.trans h'.stdout)

/-- The document of a statement tells the statement. -/
theorem statement_inj {query query' sql sql' : Text} (h : x.Tells (.statement query sql))
    (h' : x.Tells (.statement query' sql')) : query = query' ∧ sql = sql' := by
  have hfields : [("query".toList, query), ("sql".toList, sql)]
      = [("query".toList, query'), ("sql".toList, sql')] :=
    Json.document_textFields_inj (h.document_eq h')
  simpa using hfields

/-- A document that tells a request does not tell that none was understood. -/
theorem not_notUnderstood {r : Result} {v : Datum} {fs : Fields} (h : x.Tells r)
    (hr : r.toDatum = .record (("query".toList, v) :: fs)) : ¬ x.Tells .notUnderstood := by
  intro h'
  have hdocument := h.document_eq h'
  rw [hr] at hdocument
  exact absurd (Json.name_eq_of_document_eq hdocument) (by decide)

end Tells

/-- The ways in which a call is to end. -/
inductive Way where
  | result
  | failure
  | refusal
  deriving DecidableEq, Repr

/-- The call ends in a way. -/
def EndsIn (x : Outcome) : Way → Prop
  | .result => ∃ r, x.Tells r
  | .failure => ∃ f, x.TellsFailure f
  | .refusal => ∃ reason, x.Refuses reason ∧ '\n' ∉ reason

theorem EndsIn.exitCode_stdout {x : Outcome} {way : Way} (h : x.EndsIn way) :
    match way with
    | .result => x.exitCode = 0
    | .failure => x.exitCode = 1 ∧ x.stdout ≠ []
    | .refusal => x.exitCode = 1 ∧ x.stdout = [] := by
  cases way with
  | result =>
    obtain ⟨r, hr⟩ := h
    exact hr.exitCode
  | failure =>
    obtain ⟨f, hf⟩ := h
    exact ⟨hf.exitCode, by rw [hf.stdout]; exact List.append_ne_nil_of_right_ne_nil _ (by decide)⟩
  | refusal =>
    obtain ⟨reason, hrefuses, -⟩ := h
    exact ⟨hrefuses.exitCode, hrefuses.stdout⟩

/-- The code and the output tell in which way a call ended. -/
theorem EndsIn.unique {x : Outcome} {v w : Way} (hv : x.EndsIn v) (hw : x.EndsIn w) : v = w := by
  have hv' := hv.exitCode_stdout
  have hw' := hw.exitCode_stdout
  cases v <;> cases w <;> simp_all

theorem EndsIn.escaped {x : Outcome} {way : Way} (h : x.EndsIn way) : x.escaped = none := by
  cases way with
  | result =>
    obtain ⟨r, hr⟩ := h
    exact hr.escaped
  | failure =>
    obtain ⟨f, hf⟩ := h
    exact hf.escaped
  | refusal =>
    obtain ⟨reason, hrefuses, -⟩ := h
    exact hrefuses.escaped

/-- No call ends in two ways. -/
theorem existsUnique_endsIn_iff {x : Outcome} :
    (∃! way, x.EndsIn way) ↔ ∃ way, x.EndsIn way :=
  ⟨ExistsUnique.exists, fun ⟨way, h⟩ => ⟨way, h, fun _ hw => hw.unique h⟩⟩

/-- A refusal counts exactly if its reason is told in one line. -/
theorem Refuses.exists_endsIn_iff {x : Outcome} {reason : Text} (h : x.Refuses reason) :
    (∃ way, x.EndsIn way) ↔ '\n' ∉ reason := by
  constructor
  · rintro ⟨way, hway⟩
    cases way with
    | result => exact absurd (h.exitCode.symm.trans hway.exitCode_stdout) (by decide)
    | failure => exact absurd h.stdout hway.exitCode_stdout.2
    | refusal =>
      obtain ⟨reason', hrefuses, hline⟩ := hway
      have hstderr := h.stderr.symm.trans hrefuses.stderr
      rw [List.append_assoc, List.append_assoc] at hstderr
      rwa [List.append_cancel_right (List.append_cancel_left hstderr)]
  · intro hline
    exact ⟨.refusal, reason, h, hline⟩

end Outcome

/-! ## Commands that run -/

variable {o : Options} {t : Traced Result}

theorem tells_conclude {r : Result} (hpretty : o.pretty = false) (ht : t.outcome = .ok r) :
    (conclude o t).Tells r := by
  simp only [conclude, ht, hpretty]
  exact ⟨rfl, rfl, rfl⟩

theorem tellsFailure_conclude {f : Fault} (hpretty : o.pretty = false)
    (ht : t.outcome = .error f) : (conclude o t).TellsFailure f := by
  simp only [conclude, ht, hpretty]
  exact ⟨rfl, rfl, rfl⟩

/-- What a command comes to is told by how the call ends. -/
theorem outcome_of_tells {r : Result} (hpretty : o.pretty = false) (h : (conclude o t).Tells r) :
    ∃ r', t.outcome = .ok r' ∧ (conclude o t).Tells r' := by
  cases ht : t.outcome with
  | ok r' => exact ⟨r', rfl, tells_conclude hpretty ht⟩
  | error f =>
    have hcode := (tellsFailure_conclude hpretty ht).exitCode
    rw [h.exitCode] at hcode
    cases hcode

variable {s : Surroundings} {c : Context} {database : Option Text} {url : Text}

theorem inStore_of_ok {command : Store → Traced Result} (hurl : locate s database = .ok url) :
    (inStore s o database command c).1 = conclude o (command (s.store url)) := by
  simp only [inStore, Context.openStore, hurl]

theorem inStore_of_refused {command : Store → Traced Result} {r : Refusal}
    (h : locate s database = .error (.refused r)) :
    (inStore s o database command c).1 = .refused r.message := by
  simp only [inStore, Context.openStore, h]

theorem inStore_of_failed {command : Store → Traced Result} {f : Fault}
    (h : locate s database = .error (.failed f)) :
    (inStore s o database command c).1 = .broken f := by
  simp only [inStore, Context.openStore, h]

/-- With a request, and a database to open, the command runs. -/
theorem onRequest_of_ok {query : Option Text} {q : Text} {command : Text → Store → Traced Result}
    (hquery : Command.spoken? (Command.places s.environment database query).2 = some q)
    (hurl : locate s (Command.places s.environment database query).1 = .ok url) :
    (onRequest s o database query command c).1 = conclude o (command q (s.store url)) := by
  simp only [onRequest, hquery]
  exact inStore_of_ok hurl

end PlainSearch.CommandLine
