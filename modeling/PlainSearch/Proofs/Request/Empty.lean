/-
  Proofs/Request/Empty.lean --- when a request searches for nothing.

  WHAT THIS FILE IS FOR.  Search terms have an expression without characters exactly if they are
  blank (`expression_eq_nil_iff`).  Operators are written token by token, and no token that is
  not a gap comes of gaps or gives way to them (`Token.Written.isGap_iff`); and of proper
  tokens only gaps are blank (`Token.isBlank_textOf_iff`).

  REQUESTS.  A request that names a table is not blank, and has no blanks at its ends.  So what
  follows the marker that counts is blank only if nothing does, and a plan has an empty
  expression exactly if its request ends with that marker and has it nowhere else
  (`searches_nothing_iff`).  The statement of such a plan is MATCH '', which the engine refuses.
-/
import PlainSearch.Proofs.Request.Normal
import PlainSearch.Proofs.Request.Selection
import PlainSearch.Proofs.Request.Statement
import PlainSearch.Proofs.Request.Target

set_option autoImplicit false

namespace PlainSearch

/-! ## Blank texts -/

namespace Text

variable {p : Char → Bool} {t : Text}

/-- Trimming leaves nothing of a text exactly if there is nothing but the class in it. -/
theorem trimBy_eq_nil_iff : trimBy p t = [] ↔ ∀ c ∈ t, p c = true := by
  constructor
  · intro h
    obtain ⟨g, g', ht, hg, hg'⟩ := exists_eq_append_trimBy p t
    rw [h, List.append_nil] at ht
    rw [ht]
    exact fun c hc => (List.mem_append.1 hc).elim (hg c) (hg' c)
  · intro h
    have hnil : ∀ c ∈ ([] : Text), p c = true := fun c hc => by cases hc
    have hfront := trimBy_append_append h hnil []
    rwa [List.append_nil, List.append_nil] at hfront

/-- A trimmed text has nothing but the class at its end only if there is nothing there. -/
theorem IsTrimmed.eq_nil_of_forall {front back : Text} (h : IsTrimmed p (front ++ back))
    (hback : ∀ c ∈ back, p c = true) : back = [] := by
  by_contra hne
  have hlast := List.getLast?_eq_some_getLast hne
  have hclass := h.last _ (by rw [List.getLast?_append_of_ne_nil _ hne]; exact hlast)
  rw [hback _ (List.getLast_mem hne)] at hclass
  cases hclass

end Text

/-! ## Blank tokens -/

namespace Token

variable {ts us : List Token}

/-- Of proper tokens only gaps are blank. -/
theorem isBlank_textOf_iff (hts : ∀ t ∈ ts, t.IsProper) :
    (∀ c ∈ Symbol.textOf (symbolsOf ts), Text.isBlank c = true) ↔ ∀ t ∈ ts, t.isGap = true := by
  constructor
  · intro h t ht
    by_contra hgap
    obtain ⟨hne, htrimmed⟩ := isFirm_of_isGap_eq_false (hts t ht) (Bool.eq_false_iff.2 hgap)
    obtain ⟨c, u, hcons⟩ := List.exists_cons_of_ne_nil hne
    have hmem : c ∈ Symbol.textOf (symbolsOf ts) := by
      rw [textOf_symbolsOf, List.mem_flatMap]
      exact ⟨t, ht, hcons ▸ List.mem_cons_self⟩
    have hfirst := htrimmed.head c (by rw [hcons]; rfl)
    rw [h c hmem] at hfirst
    cases hfirst
  · exact isBlank_of_mem_textOf_gaps hts

/-- Gaps are written as gaps, and nothing else is. -/
theorem Written.isGap_iff (h : Written ts us) :
    (∀ t ∈ us, t.isGap = true) ↔ ∀ t ∈ ts, t.isGap = true := by
  induction h with
  | nil => exact Iff.rfl
  | keep _ _ ih => rw [List.forall_mem_cons, List.forall_mem_cons, ih]
  | @near a w n b g g' g'' ts us _ _ _ _ =>
    -- on both sides the left operand stands in front, which is a word
    refine iff_of_false (fun hall => ?_) fun hall => ?_
    · cases hall (.word a) (List.mem_append_left us List.mem_cons_self)
    · cases hall (.word a) List.mem_cons_self

theorem isGap_writeOperators_iff :
    (∀ t ∈ writeOperators ts, t.isGap = true) ↔ ∀ t ∈ ts, t.isGap = true := by
  unfold writeOperators
  rw [(written_writeProximity _).isGap_iff]
  simp only [List.forall_mem_map, isGap_capitalize]

end Token

namespace Request

open Text (IsFirstSplit)

/-! ## Blank search terms -/

/-- The symbols of an expression are blank exactly if the terms are. -/
theorem isBlank_expressionSymbols_iff (ts : Text) :
    (∀ c ∈ Symbol.textOf (expressionSymbols ts), Text.isBlank c = true) ↔
      ∀ c ∈ ts, Text.isBlank c = true := by
  have hwell : Token.WellFormed (Token.ofText ts) := Token.wellFormed_ofSymbols _
  have htext : Symbol.textOf (Token.symbolsOf (Token.ofText ts)) = ts := by
    rw [Token.ofText, Token.symbolsOf_ofSymbols, Symbol.textOf_ofText]
  calc (∀ c ∈ Symbol.textOf (expressionSymbols ts), Text.isBlank c = true)
      ↔ ∀ t ∈ Token.writeOperators (Token.ofText ts), t.isGap = true :=
        Token.isBlank_textOf_iff (Token.wellFormed_writeOperators hwell).proper
    _ ↔ ∀ t ∈ Token.ofText ts, t.isGap = true := Token.isGap_writeOperators_iff
    _ ↔ ∀ c ∈ ts, Text.isBlank c = true := by
        rw [← Token.isBlank_textOf_iff hwell.proper, htext]

/-- Terms have an empty expression exactly if they are blank. -/
theorem expression_eq_nil_iff {ts e : Text} (hfree : Text.occursIn Slot.mark ts = false)
    (h : expression ts = .ok e) : e = [] ↔ ∀ c ∈ ts, Text.isBlank c = true := by
  rcases expression_eq_or hfree with he | ⟨-, he⟩
  · cases he.symm.trans h
    rw [Text.trim, Text.trimBy_eq_nil_iff, isBlank_expressionSymbols_iff]
  · cases he.symm.trans h

/-! ## Requests that end with a marker -/

/-- The marker that counts stands at the end of a text, and nowhere else in it. -/
def EndsAtMarker (markers : List Text) (text : Text) : Prop :=
  ∃ front m back before, markers = front ++ m :: back ∧ (∀ m' ∈ front, ¬ m' <:+: text) ∧
    IsFirstSplit m text before []

variable {markers : List Text} {text e : Text}

theorem endsAtMarker_iff :
    EndsAtMarker markers text ↔ ∃ m, select? markers text = some (m, []) := by
  simp only [select?_eq_some_iff, Text.splitAtFirst?_eq_some_iff, EndsAtMarker]
  constructor
  · rintro ⟨front, m, back, before, hmarkers, hfront, hsplit⟩
    exact ⟨m, front, back, hmarkers, hfront, before, hsplit⟩
  · rintro ⟨m, front, back, hmarkers, hfront, before, hsplit⟩
    exact ⟨front, m, back, before, hmarkers, hfront, hsplit⟩

/-- A text that neither is empty nor has blanks at its ends has an empty expression exactly if it
ends at its marker. -/
theorem matchExpression_eq_nil_iff (hfree : Text.occursIn Slot.mark text = false)
    (htrimmed : Text.IsTrimmed Text.isBlank text) (hne : text ≠ [])
    (he : matchExpression markers text = .ok e) : e = [] ↔ EndsAtMarker markers text := by
  rw [endsAtMarker_iff]
  cases hselect : select? markers text with
  | none =>
    rw [matchExpression_of_none (select?_eq_none_iff.1 hselect)] at he
    refine iff_of_false (fun hnil => ?_) ?_
    · have hblank := (expression_eq_nil_iff hfree he).1 hnil
      have hwhole : Text.IsTrimmed Text.isBlank ([] ++ text) := htrimmed
      exact hne (hwhole.eq_nil_of_forall hblank)
    · rintro ⟨m, ⟨⟩⟩
  | some s =>
    obtain ⟨m, rest⟩ := s
    obtain ⟨front, back, hmarkers, hfront, before, hsplit⟩ := select?_eq_some_iff.1 hselect
    have htext := Text.eq_append_of_splitAtFirst? hsplit
    have hm : m ≠ [] := by
      rintro rfl
      simp only [matchExpression, terms, hselect] at he
      cases he
    rw [hmarkers, matchExpression_of_firstSplit hm hfront (Text.splitAtFirst?_eq_some_iff.1 hsplit)]
      at he
    have hfree' : Text.occursIn Slot.mark rest = false := by
      rw [Text.occursIn_eq_false_iff] at hfree ⊢
      exact fun hmark => hfree (hmark.trans ⟨before ++ m, [], by rw [htext, List.append_nil]⟩)
    rw [expression_eq_nil_iff hfree' he]
    constructor
    · intro hblank
      -- the text has no blank at its end, so nothing follows the marker
      rw [htext] at htrimmed
      obtain rfl := htrimmed.eq_nil_of_forall hblank
      exact ⟨m, rfl⟩
    · rintro ⟨m', heq⟩
      cases heq
      exact fun c hc => by cases hc

variable {settings : Settings} {catalog : Catalog} {raw : Text} {p : Plan}

/-- A request that names a table is not blank. -/
theorem normalize_ne_nil_of_resolve? {target : Table}
    (h : catalog.resolve? (normalize raw) = some target) : normalize raw ≠ [] := by
  obtain ⟨-, -, -, ⟨w, ⟨hne, -⟩, hin⟩, -⟩ := Catalog.resolve?_eq_some_iff.1 h
  intro hnil
  rw [hnil] at hin
  exact hne (List.infix_nil.1 hin)

theorem expression_of_plan_eq_nil_iff (h : (plan settings catalog raw).outcome = .ok (some p)) :
    p.expression = [] ↔ EndsAtMarker settings.markers (normalize raw) := by
  obtain ⟨target, e, n, htarget, he, -, rfl⟩ := plan_eq_some_iff.1 h
  exact matchExpression_eq_nil_iff (occursIn_mark_eq_false_of_normalize (List.infix_refl _))
    (isNormal_normalize raw).trimmed (normalize_ne_nil_of_resolve? htarget) he

/-- When nothing is searched for.  The expression of a plan is empty exactly if the request, in its
normal form, ends with the marker that counts and has it nowhere else; and exactly then the
statement searches for the empty literal. -/
theorem searches_nothing_iff (h : (plan settings catalog raw).outcome = .ok (some p)) :
    (p.expression = [] ↔ EndsAtMarker settings.markers (normalize raw)) ∧
    (p.expression = [] ↔ ∃ tail, Part.IsTail p 0 tail ∧
      p.statement settings = searchFront settings p ++ '\'' :: tail) := by
  refine ⟨expression_of_plan_eq_nil_iff h, ?_⟩
  obtain ⟨tail, htail, hstatement⟩ := exists_tail h
  constructor
  · intro hnil
    refine ⟨tail, htail, ?_⟩
    rw [hstatement, hnil]
    exact congrArg (· ++ '\'' :: tail) (List.append_nil _)
  · rintro ⟨tail', htail', hstatement'⟩
    rw [hstatement, List.append_assoc] at hstatement'
    have hread := Sql.readLiteral_literalBody_append p.expression (head?_tail_ne_quote htail)
    have hread' : Sql.readLiteral ('\'' :: tail') = some ([], tail') :=
      Sql.readLiteral_literalBody_append [] (head?_tail_ne_quote htail')
    rw [List.append_cancel_left hstatement', hread'] at hread
    exact (Prod.mk.inj (Option.some.inj hread)).1.symm

/-- A request that ends with a marker, and its statement. -/
theorem searches_nothing_iff_of_marker_last :
    ∃ p, (plan {} ⟨[⟨"books".toList, []⟩]⟩ "Latest books ABOUT ".toList).outcome = .ok (some p) ∧
      EndsAtMarker ({} : Settings).markers (normalize "Latest books ABOUT ".toList) ∧
      p.expression = [] ∧
      p.statement {} = "SELECT rowid, * FROM books_fts WHERE books_fts MATCH ''".toList := by
  have hplan : (plan {} ⟨[⟨"books".toList, []⟩]⟩ "Latest books ABOUT ".toList).outcome
      = .ok (some { target := ⟨"books".toList, []⟩, expression := [] }) := rfl
  exact ⟨_, hplan, (searches_nothing_iff hplan).1.1 rfl, rfl, rfl⟩

end Request
end PlainSearch
