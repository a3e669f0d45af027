/-
  Proofs/Request/Plan.lean --- when a request has a plan, and what becomes of its phrases.

  WHAT THIS FILE IS FOR.  `plan_outcome` gives the outcome of planning without the
  journal, one clause after another.  Two questions are answered from it.

  WHETHER THERE IS A PLAN.  A request that names no table has none, and that is no
  fault.  A request that names one has a plan unless

      the marker that counts is empty (`EmptyMarkerCounts`), or
      its search terms have more phrases than can be numbered, or
      the numeral of its limit is too long to be read.

  There is no other way to fail (`plan_fault_iff_or`, `matchExpression_fault_iff`,
  `limit?_fault_iff`), and stating a plan adds none.

  WHICH PHRASES THE EXPRESSION HOLDS.  Those of the search terms, which begin right
  behind the marker.  How they relate to the phrases of the whole request depends on
  whether the marker stands inside one, as `Proofs/Request/Marker.lean` says.
-/
import PlainSearch.Proofs.Request.Marker
import PlainSearch.Request.Statement

set_option autoImplicit false

namespace PlainSearch.Request

variable (settings : Settings) (catalog : Catalog) (raw : Text)

/-! ## Outcomes -/

/-- The outcome of planning, clause by clause. -/
theorem plan_outcome :
    (plan settings catalog raw).outcome =
      match catalog.resolve? (normalize raw) with
      | none => .ok none
      | some target =>
        match matchExpression settings.markers (normalize raw) with
        | .error f => .error f
        | .ok e =>
          match limit? (normalize raw) with
          | .error f => .error f
          | .ok n => .ok (some {
              target := target
              expression := e
              filters := filters target (normalize raw)
              order := order? target (normalize raw)
              limit := n.map Int.ofNat }) := by
  simp only [plan]
  cases catalog.resolve? (normalize raw) with
  | none => simp [Traced.outcome_bind]
  | some target =>
    simp only [Traced.outcome_bind, Traced.outcome_ofExcept, matchExpression]
    cases terms settings.markers (normalize raw) with
    | error f => rfl
    | ok p =>
      obtain ⟨m, ts⟩ := p
      simp only [Traced.outcome_recordAll]
      cases expression ts with
      | error f => rfl
      | ok e =>
        dsimp only
        cases limit? (normalize raw) with
        | error f => rfl
        | ok n => rfl

/-- A statement is the statement of the plan, if there is one. -/
theorem statement?_outcome :
    (statement? settings catalog raw).outcome =
      (plan settings catalog raw).outcome.map (·.map (·.statement settings)) := by
  rw [statement?, Traced.outcome_bind]
  cases (plan settings catalog raw).outcome with
  | error f => rfl
  | ok o =>
    cases o with
    | none => rfl
    | some p => simp [Traced.outcome_bind, Except.map]

variable {settings catalog raw}

theorem statement?_eq_some_iff {sql : Text} :
    (statement? settings catalog raw).outcome = .ok (some sql) ↔
      ∃ p, (plan settings catalog raw).outcome = .ok (some p) ∧ p.statement settings = sql := by
  rw [statement?_outcome]
  cases (plan settings catalog raw).outcome with
  | error f => simp [Except.map]
  | ok o => cases o <;> simp [Except.map]

/-- What a plan is made of. -/
theorem plan_eq_some_iff {p : Plan} :
    (plan settings catalog raw).outcome = .ok (some p) ↔
      ∃ target e n, catalog.resolve? (normalize raw) = some target ∧
        matchExpression settings.markers (normalize raw) = .ok e ∧
        limit? (normalize raw) = .ok n ∧
        p = {
          target := target
          expression := e
          filters := filters target (normalize raw)
          order := order? target (normalize raw)
          limit := n.map Int.ofNat } := by
  rw [plan_outcome]
  constructor
  · intro h
    split at h
    · cases h
    · next target htarget =>
      split at h
      · cases h
      · next e he =>
        split at h
        · cases h
        · next n hn =>
          cases h
          exact ⟨target, e, n, htarget, he, hn, rfl⟩
  · rintro ⟨target, e, n, htarget, he, hn, rfl⟩
    simp only [htarget, he, hn]

/-! ## Faults -/

/-- The marker that counts in a text is one without characters. -/
def EmptyMarkerCounts (markers : List Text) (text : Text) : Prop :=
  ∃ front back, markers = front ++ [] :: back ∧ ∀ m ∈ front, ¬ m <:+: text

theorem exists_select?_nil_iff {markers : List Text} {text : Text} :
    (∃ rest, select? markers text = some ([], rest)) ↔ EmptyMarkerCounts markers text := by
  constructor
  · rintro ⟨rest, h⟩
    obtain ⟨front, back, hmarkers, hfront, -⟩ := select?_eq_some_iff.1 h
    exact ⟨front, back, hmarkers, hfront⟩
  · rintro ⟨front, back, hmarkers, hfront⟩
    have hsplit : Text.splitAtFirst? [] text = some ([], text) := by
      cases text <;> rfl
    exact ⟨text, select?_eq_some_iff.2 ⟨front, back, hmarkers, hfront, [], hsplit⟩⟩

/-- There is no expression if the marker that counts is empty, or if the search terms have more
phrases than can be numbered. -/
theorem matchExpression_fault_iff {markers : List Text} {text : Text}
    (hfree : Text.occursIn Slot.mark text = false) :
    (∃ f, matchExpression markers text = .error f) ↔
      EmptyMarkerCounts markers text ∨
        Slot.capacity < (Phrase.texts (text.drop (termsStart markers text))).length := by
  rw [← exists_select?_nil_iff]
  cases hts : terms markers text with
  | error f =>
    -- terms are refused only behind an empty marker
    refine iff_of_true ⟨f, by rw [matchExpression, hts]⟩ (.inl ?_)
    unfold terms at hts
    split at hts
    · cases hts
    · next rest hselect => exact ⟨rest, hselect⟩
    · cases hts
  | ok p =>
    obtain ⟨o, ts⟩ := p
    have hmarker : ¬ ∃ rest, select? markers text = some ([], rest) := by
      rintro ⟨rest, hselect⟩
      rw [terms, hselect] at hts
      cases hts
    simp only [matchExpression_eq hfree hts, hmarker, false_or]
    split
    · next hle => exact iff_of_false (by rintro ⟨f, hf⟩; cases hf) (Nat.not_lt.2 hle)
    · next hlt => exact iff_of_true ⟨_, rfl⟩ (Nat.not_le.1 hlt)

theorem limit?_fault_iff {text : Text} :
    (∃ f, limit? text = .error f) ↔
      ∃ o, limitClause.first? text = some o ∧ numeralLimit < o.numeral.length := by
  unfold limit?
  cases limitClause.first? text with
  | none => simp
  | some o =>
    simp only [readNumeral, Option.some.injEq, exists_eq_left']
    by_cases hlong : numeralLimit < o.numeral.length
    · rw [if_pos hlong]
      exact iff_of_true ⟨_, rfl⟩ hlong
    · rw [if_neg hlong]
      refine iff_of_false ?_ hlong
      rintro ⟨f, hf⟩
      cases hf

section

variable (settings : Settings) (catalog : Catalog) (raw : Text)

theorem plan_eq_none_iff :
    (plan settings catalog raw).outcome = .ok none ↔ catalog.resolve? (normalize raw) = none := by
  rw [plan_outcome]
  cases catalog.resolve? (normalize raw) with
  | none => exact iff_of_true rfl rfl
  | some target =>
    cases matchExpression settings.markers (normalize raw) with
    | error f => simp
    | ok e => cases limit? (normalize raw) <;> simp

/-- A fault of planning is one of the expression or one of the limit. -/
theorem plan_fault_iff_or :
    (∃ f, (plan settings catalog raw).outcome = .error f) ↔
      (∃ target, catalog.resolve? (normalize raw) = some target) ∧
        ((∃ f, matchExpression settings.markers (normalize raw) = .error f) ∨
          ∃ f, limit? (normalize raw) = .error f) := by
  rw [plan_outcome]
  cases catalog.resolve? (normalize raw) with
  | none => simp
  | some target =>
    cases matchExpression settings.markers (normalize raw) with
    | error f => simp
    | ok e => cases limit? (normalize raw) <;> simp

theorem statement?_fault_iff :
    (∃ f, (statement? settings catalog raw).outcome = .error f) ↔
      ∃ f, (plan settings catalog raw).outcome = .error f := by
  rw [statement?_outcome]
  cases (plan settings catalog raw).outcome <;> simp [Except.map]

theorem statement?_eq_none_iff :
    (statement? settings catalog raw).outcome = .ok none ↔
      (plan settings catalog raw).outcome = .ok none := by
  rw [statement?_outcome]
  cases (plan settings catalog raw).outcome with
  | error f => simp [Except.map]
  | ok o => cases o <;> simp [Except.map]

end

/-- When planning ends in a fault, when it finds nothing to do, and that stating a plan adds no
fault of its own. -/
theorem plan_fault_iff (settings : Settings) (catalog : Catalog) (raw : Text) :
    ((∃ f, (plan settings catalog raw).outcome = .error f) ↔
      (∃ target, catalog.resolve? (normalize raw) = some target) ∧
        (EmptyMarkerCounts settings.markers (normalize raw) ∨
          Slot.capacity < (Phrase.texts ((normalize raw).drop
            (termsStart settings.markers (normalize raw)))).length ∨
          ∃ o, limitClause.first? (normalize raw) = some o ∧ numeralLimit < o.numeral.length)) ∧
    ((plan settings catalog raw).outcome = .ok none ↔
      catalog.resolve? (normalize raw) = none) ∧
    ((∃ f, (statement? settings catalog raw).outcome = .error f) ↔
      ∃ f, (plan settings catalog raw).outcome = .error f) ∧
    ((statement? settings catalog raw).outcome = .ok none ↔
      (plan settings catalog raw).outcome = .ok none) := by
  refine ⟨?_, plan_eq_none_iff settings catalog raw, statement?_fault_iff settings catalog raw,
    statement?_eq_none_iff settings catalog raw⟩
  have hfree : Text.occursIn Slot.mark (normalize raw) = false :=
    occursIn_mark_eq_false_of_normalize (List.infix_refl _)
  rw [plan_fault_iff_or, matchExpression_fault_iff hfree, limit?_fault_iff, or_assoc]

example : (plan { markers := [[]] } ⟨[⟨"orders".toList, []⟩]⟩ "orders".toList).outcome =
    .error .emptyMarker := rfl

/-! ## Phrases -/

/-- The phrases of an expression are those of the request behind its marker.  Unless the place
behind the marker lies inside a phrase, each phrase of the request either begins there or later and
is kept, or ends there or earlier and is dropped; and of the quotes of phrases the expression has
an even number exactly in this case. -/
theorem phrases_of_plan {settings : Settings} {catalog : Catalog} {raw : Text} {p : Plan}
    (h : (plan settings catalog raw).outcome = .ok (some p)) :
    let text := normalize raw
    let k := termsStart settings.markers text
    Phrase.texts p.expression = Phrase.texts (text.drop k) ∧
    ((∀ ph ∈ Phrase.find text, ¬ ph.Straddles k) →
      Phrase.texts p.expression = ((Phrase.find text).filter fun ph => k ≤ ph.start).map (·.text) ∧
      ∀ ph ∈ Phrase.find text,
        (k ≤ ph.start ∧ ph.text <:+: p.expression) ∨
        (ph.stop ≤ k ∧ ∀ m rest, select? settings.markers text = some (m, rest) → '"' ∉ m →
          ph.stop + m.length + rest.length ≤ text.length)) ∧
    (text.count '"' = 2 * (Phrase.find text).length →
      (p.expression.count '"' % 2 = 0 ↔ ∀ ph ∈ Phrase.find text, ¬ ph.Straddles k)) := by
  intro text k
  obtain ⟨target, e, n, -, he, -, rfl⟩ := plan_eq_some_iff.1 h
  have hfree : Text.occursIn Slot.mark text = false :=
    occursIn_mark_eq_false_of_normalize (List.infix_refl _)
  refine ⟨(texts_matchExpression hfree he).1, ?_, count_quote_even_iff hfree he⟩
  intro hwhole
  refine ⟨texts_matchExpression_of_not_straddles hfree he hwhole, ?_⟩
  intro ph hph
  exact kept_or_dropped hfree he hwhole hph

/-- A phrase in front of the marker, and two behind it. -/
theorem phrases_of_plan_around_marker :
    ∃ p, (plan {} ⟨[⟨"books".toList, []⟩]⟩
        "Books \"old ones\" about \"cats and dogs\" or \"x\"".toList).outcome = .ok (some p) ∧
      Phrase.texts p.expression = ["\"cats and dogs\"".toList, "\"x\"".toList] ∧
      p.expression.count '"' % 2 = 0 := by
  have hplan : (plan {} ⟨[⟨"books".toList, []⟩]⟩
      "Books \"old ones\" about \"cats and dogs\" or \"x\"".toList).outcome =
      .ok (some {
        target := ⟨"books".toList, []⟩
        expression := "\"cats and dogs\" OR \"x\"".toList }) := rfl
  obtain ⟨-, hwhole, hparity⟩ := phrases_of_plan hplan
  refine ⟨_, hplan, ?_, ?_⟩
  · exact (hwhole (by decide)).1.trans (by decide)
  · exact (hparity (by decide)).2 (by decide)

/-- A marker inside a phrase cuts it: the phrase is neither in the expression nor before the
marker, and one of its two quotes is left. -/
theorem marker_cuts_phrase :
    ¬ (∀ (settings : Settings) (catalog : Catalog) (raw : Text) (p : Plan),
      [] ∉ settings.markers → (plan settings catalog raw).outcome = .ok (some p) →
      ∀ ph ∈ Phrase.find (normalize raw),
        ph.text <:+: p.expression ∨
        ∃ m rest, select? settings.markers (normalize raw) = some (m, rest) ∧
          ph.stop + m.length + rest.length ≤ (normalize raw).length) ∧
    ¬ (∀ (settings : Settings) (catalog : Catalog) (raw : Text) (p : Plan),
      [] ∉ settings.markers → (plan settings catalog raw).outcome = .ok (some p) →
      (normalize raw).count '"' = 2 * (Phrase.find (normalize raw)).length →
        p.expression.count '"' % 2 = 0) := by
  have hplan : (plan {} ⟨[⟨"books".toList, []⟩]⟩ "books \"life with cats\"".toList).outcome =
      .ok (some { target := ⟨"books".toList, []⟩, expression := "cats\"".toList }) := rfl
  constructor
  · intro hall
    have hmem : (⟨6, "\"life with cats\"".toList⟩ : Phrase)
        ∈ Phrase.find (normalize "books \"life with cats\"".toList) := by decide
    rcases hall _ _ _ _ (by decide) hplan _ hmem with hin | ⟨m, rest, hselect, hle⟩
    · exact absurd hin (by decide)
    · have hfirst : select? ({} : Settings).markers (normalize "books \"life with cats\"".toList)
          = some ("with".toList, " cats\"".toList) := by decide
      rw [hfirst] at hselect
      cases hselect
      exact absurd hle (by decide)
  · intro hall
    exact absurd (hall _ _ _ _ (by decide) hplan (by decide)) (by decide)

end PlainSearch.Request
