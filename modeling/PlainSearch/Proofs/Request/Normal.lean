/-
  Proofs/Request/Normal.lean --- requests that are read alike.

  WHAT THIS FILE IS FOR.  A request is in normal form if it neither begins nor ends with a
  blank and has no capital (`IsNormal`).  `normalize` ends in such a form and leaves one
  as it is.

  Two requests are alike if one comes of the other by changing the case of letters A to Z,
  by putting blanks around it, or by normalizing it, any number of times and in both
  directions (`Alike`).  Each single change keeps the normal form, so a whole run of them
  does, and everything that is made of a request is made of its normal form
  (`planned_alike`).
-/
import PlainSearch.Proofs.Request.Plan
import PlainSearch.Proofs.Text.LowerCase
import PlainSearch.Proofs.Text.Trim

set_option autoImplicit false

namespace PlainSearch

/-! ## Blanks at the ends of a text in lower case -/

namespace Text

theorem lowerAfter_ne_nil {t : Text} (h : t ≠ []) (before : Text) : lowerAfter before t ≠ [] := by
  cases t with
  | nil => exact absurd rfl h
  | cons c t =>
    rw [lowerAfter]
    exact List.append_ne_nil_of_left_ne_nil (lowerAt_ne_nil before c t) _

theorem isBlank_of_mem_head?_lowerAfter {before t : Text} {a : Char}
    (h : a ∈ (lowerAfter before t).head?) : ∃ c ∈ t.head?, isBlank a = isBlank c := by
  cases t with
  | nil => cases h
  | cons c t =>
    rw [lowerAfter, List.head?_append_of_ne_nil _ (lowerAt_ne_nil before c t)] at h
    exact ⟨c, rfl, isBlank_of_mem_lowerAt (List.mem_of_mem_head? h)⟩

theorem isBlank_of_mem_getLast?_lowerAfter {before t : Text} {a : Char}
    (h : a ∈ (lowerAfter before t).getLast?) : ∃ c ∈ t.getLast?, isBlank a = isBlank c := by
  induction t generalizing before with
  | nil => cases h
  | cons c t ih =>
    rw [lowerAfter] at h
    by_cases hlast : t = []
    · subst hlast
      rw [lowerAfter, List.append_nil] at h
      exact ⟨c, rfl, isBlank_of_mem_lowerAt (List.mem_of_mem_getLast? h)⟩
    · rw [List.getLast?_append_of_ne_nil _ (lowerAfter_ne_nil hlast _)] at h
      obtain ⟨d, hd, hsame⟩ := ih h
      refine ⟨d, ?_, hsame⟩
      rw [← List.singleton_append, List.getLast?_append_of_ne_nil _ hlast]
      exact hd

/-- Lower-casing puts no blanks at the ends. -/
theorem IsTrimmed.lower {t : Text} (h : IsTrimmed isBlank t) :
    IsTrimmed isBlank (Text.lower t) := by
  constructor
  · intro a ha
    obtain ⟨c, hc, hsame⟩ := isBlank_of_mem_head?_lowerAfter ha
    rw [hsame, h.head c hc]
  · intro a ha
    obtain ⟨c, hc, hsame⟩ := isBlank_of_mem_getLast?_lowerAfter ha
    rw [hsame, h.last c hc]

end Text

namespace Request

/-! ## Normal forms -/

/-- A request that neither begins nor ends with a blank and has no capital. -/
structure IsNormal (t : Text) : Prop where
  trimmed : Text.IsTrimmed Text.isBlank t
  small : ∀ c ∈ t, Text.isCapital c = false

theorem isNormal_normalize (raw : Text) : IsNormal (normalize raw) where
  trimmed := (Text.isTrimmed_trimBy Text.isBlank raw).lower
  small := fun _ hc => Text.isCapital_of_mem_lower hc

theorem normalize_eq_self {t : Text} (h : IsNormal t) : normalize t = t := by
  rw [normalize, Text.trim, Text.trimBy_eq_self h.trimmed, Text.lower_eq_self h.small]

theorem normalize_normalize (raw : Text) : normalize (normalize raw) = normalize raw :=
  normalize_eq_self (isNormal_normalize raw)

/-! ## Changes that keep the normal form -/

theorem normalize_eq_of_eqIgnoringAsciiCase {raw raw' : Text}
    (h : Text.eqIgnoringAsciiCase raw raw' = true) : normalize raw = normalize raw' := by
  have hmap (t : Text) : normalize t = Text.lower (Text.trim (t.map Text.asciiLowerChar)) := by
    rw [normalize, Text.trim, Text.trim, Text.trimBy_map Text.isBlank_asciiLowerChar,
      Text.lower_map]
  rw [hmap raw, hmap raw', of_decide_eq_true h]

theorem normalize_append_append {front back : Text} (hfront : ∀ c ∈ front, Text.isBlank c = true)
    (hback : ∀ c ∈ back, Text.isBlank c = true) (raw : Text) :
    normalize (front ++ raw ++ back) = normalize raw := by
  rw [normalize, Text.trim, Text.trimBy_append_append hfront hback]
  rfl

/-- Requests of which one comes of the other by changing the case of letters A to Z, by putting
blanks around it, or by normalizing it. -/
inductive Alike : Text → Text → Prop where
  /-- letters A to Z in another case -/
  | letters {raw raw' : Text} : Text.eqIgnoringAsciiCase raw raw' = true → Alike raw raw'
  /-- blanks in front and behind -/
  | blanks {front back : Text} (raw : Text) : (∀ c ∈ front, Text.isBlank c = true) →
      (∀ c ∈ back, Text.isBlank c = true) → Alike raw (front ++ raw ++ back)
  | normal (raw : Text) : Alike raw (normalize raw)
  | symm {raw raw' : Text} : Alike raw raw' → Alike raw' raw
  | trans {raw raw' raw'' : Text} : Alike raw raw' → Alike raw' raw'' → Alike raw raw''

theorem Alike.normalize_eq {raw raw' : Text} (h : Alike raw raw') :
    normalize raw' = normalize raw := by
  induction h with
  | letters hcase => exact (normalize_eq_of_eqIgnoringAsciiCase hcase).symm
  | blanks raw hfront hback => exact normalize_append_append hfront hback raw
  | normal raw => exact normalize_normalize raw
  | symm _ ih => exact ih.symm
  | trans _ _ ih ih' => exact ih'.trans ih

/-! ## What is made of requests -/

/-- A plan is made of the normal form alone. -/
theorem plan_outcome_congr {raw raw' : Text} (h : normalize raw' = normalize raw)
    (settings : Settings) (catalog : Catalog) :
    (plan settings catalog raw').outcome = (plan settings catalog raw).outcome := by
  rw [plan_outcome, plan_outcome, h]

/-- The normal form of a request is normal, and a normal request is its own.  Requests that are
alike have one normal form, and the same becomes of them over every catalog: the same plan and
statement, none, or the same fault. -/
theorem planned_alike (raw : Text) :
    IsNormal (normalize raw) ∧
    (IsNormal raw → normalize raw = raw) ∧
    normalize (normalize raw) = normalize raw ∧
    ∀ raw', Alike raw raw' →
      normalize raw' = normalize raw ∧
      ∀ (settings : Settings) (catalog : Catalog),
        (plan settings catalog raw').outcome = (plan settings catalog raw).outcome ∧
        (statement? settings catalog raw').outcome
          = (statement? settings catalog raw).outcome := by
  refine ⟨isNormal_normalize raw, normalize_eq_self, normalize_normalize raw, ?_⟩
  intro raw' halike
  refine ⟨halike.normalize_eq, fun settings catalog => ?_⟩
  have hplan := plan_outcome_congr halike.normalize_eq settings catalog
  refine ⟨hplan, ?_⟩
  rw [statement?_outcome, statement?_outcome, hplan]

/-- A request in capitals with blanks around it, a sigma at the end of a word and a capital whose
lower case has two characters. -/
theorem planned_alike_capitals :
    normalize (['\u3000'] ++ "TOP 3 BOOKS about ΟΔΟΣ or İZMIR".toList ++ ['\n'])
      = normalize "top 3 Books ABOUT ΟΔΟΣ Or İzmir".toList ∧
    (statement? {} ⟨[⟨"books".toList, []⟩]⟩
        (['\u3000'] ++ "TOP 3 BOOKS about ΟΔΟΣ or İZMIR".toList ++ ['\n'])).outcome.toOption
      = some (some
        "SELECT rowid, * FROM books_fts WHERE books_fts MATCH 'οδος OR i̇zmir' LIMIT 3".toList) := by
  have hletters : Alike "top 3 Books ABOUT ΟΔΟΣ Or İzmir".toList
      "TOP 3 BOOKS about ΟΔΟΣ or İZMIR".toList := .letters (by decide)
  have hfront : ∀ c ∈ ['\u3000'], Text.isBlank c = true := List.forall_mem_singleton.2 (by decide)
  have hback : ∀ c ∈ ['\n'], Text.isBlank c = true := List.forall_mem_singleton.2 (by decide)
  have hblanks := hletters.trans (.blanks _ hfront hback)
  obtain ⟨hnormal, hplanned⟩ := (planned_alike _).2.2.2 _ hblanks
  refine ⟨hnormal, ?_⟩
  rw [(hplanned {} ⟨[⟨"books".toList, []⟩]⟩).2]
  decide +kernel

end Request
end PlainSearch
