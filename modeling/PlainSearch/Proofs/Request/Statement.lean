/-
  Proofs/Request/Statement.lean --- the shape of a statement.

  WHAT THIS FILE IS FOR.  The only text of a request that reaches its statement as
  it stands is the search expression, in a string literal, and the numerals of its
  clauses.  So whatever a request says, its statement is

      SELECT rowid, * FROM c WHERE c MATCH 'literal'

  and behind it a tail of `Part`s, each of a fixed wording around a column of the
  table and a numeral.  A part has a `rank`; the ranks of a tail increase, so no
  kind of part comes twice and their order is always the same.

      `Part.Fits` says which columns and which numerals a part may have;

      `exists_tail` makes the tail of a plan out of parts, from the conditions over
      the ordering to the limit.

  The literal in front reads back as the expression and ends where the tail begins,
  because a tail begins with a blank (`head?_tail_ne_quote`).
-/
import PlainSearch.Proofs.Request.Clause
import PlainSearch.Proofs.Request.Plan
import PlainSearch.Proofs.Sql.Literal

set_option autoImplicit false

namespace PlainSearch

/-! ## Columns -/

/-- The name is that of the first column whose type is one of the given ones. -/
def Table.IsFirstOf (t : Table) (types : List ColumnType) (name : Text) : Prop :=
  ∃ front c back, t.columns = front ++ c :: back ∧ c.name = name ∧ c.type ∈ types ∧
    ∀ b ∈ front, b.type ∉ types

theorem Table.isFirstOf_of_firstColumnOf? {t : Table} {types : List ColumnType} {c : Column}
    (h : t.firstColumnOf? types = some c) : t.IsFirstOf types c.name := by
  obtain ⟨htype, front, back, hcolumns, hfront⟩ := List.find?_eq_some_iff_append.1 h
  refine ⟨front, c, back, hcolumns, rfl, by simpa using htype, ?_⟩
  intro b hb
  simpa using hfront b hb

/-- The column that tells the rows of a table apart: id if that is the name of a whole-number
column, rowid otherwise. -/
def Table.IsKey (t : Table) (name : Text) : Prop :=
  (name = "id".toList ∧ ∃ c ∈ t.columns, c.name = "id".toList ∧ c.type = .integer) ∨
    (name = "rowid".toList ∧ ∀ c, t.column? "id".toList = some c → c.type ≠ .integer)

theorem FilterRule.isKey_keyColumn (t : Table) : t.IsKey (keyColumn t) := by
  unfold keyColumn
  split
  · next c hc =>
    split
    · next htype =>
      refine .inl ⟨rfl, c, List.mem_of_find?_eq_some hc, ?_, htype⟩
      simpa using List.find?_some hc
    · next htype =>
      refine .inr ⟨rfl, ?_⟩
      intro c' hc'
      rw [hc] at hc'
      cases hc'
      exact htype
  · next hnone =>
    refine .inr ⟨rfl, ?_⟩
    intro c hc
    rw [hnone] at hc
    cases hc

/-! ## Parts -/

/-- A part of a statement behind its search, with what is filled in. -/
inductive Part where
  | since (column year : Text)
  | before (column year : Text)
  | below (column amount : Text)
  | above (column amount : Text)
  | key (column key : Text)
  | newest (column : Text)
  | oldest (column : Text)
  | limit (n : Nat)

namespace Part

/-- The wording of a part, with the blank in front of it. -/
def text : Part → Text
  | .since c y => ' ' :: "AND ".toList ++ c ++ " >= '".toList ++ y ++ "-01-01'".toList
  | .before c y => ' ' :: "AND ".toList ++ c ++ " < '".toList ++ y ++ "-01-01'".toList
  | .below c n => ' ' :: "AND ".toList ++ c ++ " < ".toList ++ n
  | .above c n => ' ' :: "AND ".toList ++ c ++ " > ".toList ++ n
  | .key c k => ' ' :: "AND ".toList ++ c ++ " = ".toList ++ k
  | .newest c => ' ' :: "ORDER BY ".toList ++ c ++ " DESC".toList
  | .oldest c => ' ' :: "ORDER BY ".toList ++ c ++ " ASC".toList
  | .limit n => ' ' :: "LIMIT ".toList ++ Text.ofNat n

/-- Where a part stands in the tail of a statement. -/
def rank : Part → Nat
  | .since .. => 0
  | .before .. => 1
  | .below .. => 2
  | .above .. => 3
  | .key .. => 4
  | .newest _ => 5
  | .oldest _ => 5
  | .limit _ => 6

/-- The columns and numerals that a part of the statement of a plan may have. -/
def Fits (p : Plan) : Part → Prop
  | .since c y => p.target.IsFirstOf [.timestamp] c ∧ Text.IsYear y
  | .before c y => p.target.IsFirstOf [.timestamp] c ∧ Text.IsYear y
  | .below c n => p.target.IsFirstOf ColumnType.numeric c ∧ Text.IsAmount n
  | .above c n => p.target.IsFirstOf ColumnType.numeric c ∧ Text.IsAmount n
  | .key c k => p.target.IsKey c ∧ Text.IsDigits k
  | .newest c => p.target.IsFirstOf [.timestamp] c
  | .oldest c => p.target.IsFirstOf [.timestamp] c
  | .limit n => p.limit = some (Int.ofNat n)

/-- The parts fit a plan, and their ranks increase from `n` on. -/
structure Tail (p : Plan) (n : Nat) (parts : List Part) : Prop where
  fits : ∀ x ∈ parts, x.Fits p
  /-- no part comes twice, nor out of order -/
  sorted : parts.Pairwise fun x y => x.rank < y.rank
  /-- no part belongs further to the front -/
  from_rank : ∀ x ∈ parts, n ≤ x.rank

theorem tail_nil (p : Plan) (n : Nat) : Tail p n [] := by
  refine ⟨?_, List.Pairwise.nil, ?_⟩
  · intro x hx
    cases hx
  · intro x hx
    cases hx

theorem Tail.mono {p : Plan} {m n : Nat} {parts : List Part} (h : Tail p n parts) (hle : m ≤ n) :
    Tail p m parts := by
  refine ⟨h.fits, h.sorted, ?_⟩
  intro x hx
  exact Nat.le_trans hle (h.from_rank x hx)

/-- One more part in front. -/
theorem Tail.cons {p : Plan} {x : Part} {parts : List Part} (hx : x.Fits p)
    (h : Tail p (x.rank + 1) parts) : Tail p x.rank (x :: parts) := by
  refine ⟨?_, List.pairwise_cons.2 ⟨h.from_rank, h.sorted⟩, ?_⟩
  · intro y hy
    rcases List.mem_cons.1 hy with rfl | hy
    · exact hx
    · exact h.fits y hy
  · intro y hy
    rcases List.mem_cons.1 hy with rfl | hy
    · exact Nat.le_refl _
    · exact Nat.le_trans (Nat.le_succ _) (h.from_rank y hy)

/-- A text is worded by parts of ranks from `n` on. -/
def IsTail (p : Plan) (n : Nat) (t : Text) : Prop :=
  ∃ parts, Tail p n parts ∧ parts.flatMap text = t

theorem isTail_nil (p : Plan) (n : Nat) : IsTail p n [] := ⟨[], tail_nil p n, rfl⟩

theorem IsTail.mono {p : Plan} {m n : Nat} {t : Text} (h : IsTail p n t) (hle : m ≤ n) :
    IsTail p m t := by
  obtain ⟨parts, hparts, ht⟩ := h
  exact ⟨parts, hparts.mono hle, ht⟩

theorem IsTail.cons {p : Plan} {x : Part} {n : Nat} {t : Text} (hx : x.Fits p) (hrank : x.rank = n)
    (h : IsTail p (n + 1) t) : IsTail p n (x.text ++ t) := by
  obtain ⟨parts, hparts, ht⟩ := h
  subst hrank
  exact ⟨x :: parts, hparts.cons hx, by rw [List.flatMap_cons, ht]⟩

end Part

/-! ## Conditions -/

namespace FilterRule

theorem exists_of_onDate {keyword operator year condition : Text} {t : Table}
    (h : (onDate keyword operator).condition? t year = some condition) :
    ∃ c, t.IsFirstOf [.timestamp] c ∧
      condition = c ++ [' '] ++ operator ++ [' ', '\''] ++ year ++ "-01-01'".toList := by
  obtain ⟨c, hc, heq⟩ := Option.map_eq_some_iff.1 h
  exact ⟨c.name, Table.isFirstOf_of_firstColumnOf? hc, heq.symm⟩

theorem exists_of_onNumber {keywords : List Keyword} {operator amount condition : Text} {t : Table}
    (h : (onNumber keywords operator).condition? t amount = some condition) :
    ∃ c, t.IsFirstOf ColumnType.numeric c ∧
      condition = c ++ [' '] ++ operator ++ [' '] ++ amount := by
  obtain ⟨c, hc, heq⟩ := Option.map_eq_some_iff.1 h
  exact ⟨c.name, Table.isFirstOf_of_firstColumnOf? hc, heq.symm⟩

/-- What a rule makes of a numeral that its clause can have is a part, and the rank of the part is
the place of the rule. -/
theorem exists_part {p : Plan} {i : Nat} {r : FilterRule} {t n condition : Text}
    (hr : all[i]? = some r) (hn : r.clause.numeral t = some n)
    (h : r.condition? p.target n = some condition) :
    ∃ x : Part, x.rank = i ∧ x.Fits p ∧ x.text = [' '] ++ ("AND ".toList ++ condition) := by
  match i with
  | 0 =>
    cases hr
    obtain ⟨c, hc, rfl⟩ := exists_of_onDate h
    exact ⟨.since c n, rfl, ⟨hc, NumeralForm.isYear_of_year hn⟩, by simp [Part.text]⟩
  | 1 =>
    cases hr
    obtain ⟨c, hc, rfl⟩ := exists_of_onDate h
    exact ⟨.before c n, rfl, ⟨hc, NumeralForm.isYear_of_year hn⟩, by simp [Part.text]⟩
  | 2 =>
    cases hr
    obtain ⟨c, hc, rfl⟩ := exists_of_onNumber h
    exact ⟨.below c n, rfl, ⟨hc, NumeralForm.isAmount_of_amount hn⟩, by simp [Part.text]⟩
  | 3 =>
    cases hr
    obtain ⟨c, hc, rfl⟩ := exists_of_onNumber h
    exact ⟨.above c n, rfl, ⟨hc, NumeralForm.isAmount_of_amount hn⟩, by simp [Part.text]⟩
  | 4 =>
    cases hr
    cases h
    exact ⟨.key (keyColumn p.target) n, rfl,
      ⟨isKey_keyColumn p.target, NumeralForm.isDigits_of_whole hn⟩, by simp [Part.text]⟩
  | i + 5 => cases hr

/-- The condition that a rule finds in a text. -/
def found? (r : FilterRule) (table : Table) (text : Text) : Option Text :=
  (r.clause.first? text).bind fun o => r.condition? table o.numeral

end FilterRule

namespace Request

/-- The conditions of a text are what each rule by itself finds in it. -/
theorem filters_eq_filterMap (table : Table) (text : Text) :
    filters table text = FilterRule.all.filterMap (·.found? table text) := by
  rw [filters, filterOutcomes, List.filterMap_filterMap]
  congr 1
  funext r
  simp only [FilterRule.read?, FilterRule.found?]
  cases r.clause.first? text <;> rfl

/-- The conditions that consecutive rules find are a tail, if what follows them is one. -/
theorem isTail_filterMap (text : Text) {p : Plan} {t : Text} {rules : List FilterRule} {n : Nat}
    (hrules : ∀ i r, rules[i]? = some r → FilterRule.all[n + i]? = some r)
    (ht : Part.IsTail p (n + rules.length) t) :
    Part.IsTail p n
      (((rules.filterMap (·.found? p.target text)).map ("AND ".toList ++ ·)).flatMap ([' '] ++ ·)
        ++ t) := by
  induction rules generalizing n with
  | nil => exact ht
  | cons r rules ih =>
    have hrules' : ∀ i r', rules[i]? = some r' → FilterRule.all[n + 1 + i]? = some r' := by
      intro i r' hr'
      have hnext := hrules (i + 1) r' hr'
      rwa [Nat.add_comm i, ← Nat.add_assoc] at hnext
    rw [List.length_cons, Nat.add_comm rules.length, ← Nat.add_assoc] at ht
    have hrest := ih hrules' ht
    rw [List.filterMap_cons]
    cases hfound : r.found? p.target text with
    | none => exact hrest.mono (Nat.le_succ n)
    | some condition =>
      obtain ⟨o, ho, hcondition⟩ := Option.bind_eq_some_iff.1 hfound
      obtain ⟨s, hs⟩ := Clause.exists_numeral_of_first? ho
      obtain ⟨x, hrank, hfits, htext⟩ :=
        FilterRule.exists_part (hrules 0 r rfl) hs hcondition
      have htail := hrest.cons hfits hrank
      rw [htext] at htail
      simpa using htail

/-! ## Ordering and limit -/

/-- The ordering of a text is a part. -/
theorem exists_part_of_order? {p : Plan} {text t : Text} (h : order? p.target text = some t) :
    ∃ x : Part, x.rank = 5 ∧ x.Fits p ∧ x.text = [' '] ++ t ∧ t ≠ [] := by
  unfold order? at h
  split at h
  · cases h
  · next c hc =>
    have hfirst := Table.isFirstOf_of_firstColumnOf? hc
    split at h
    · cases h
      exact ⟨.newest c.name, rfl, hfirst, by simp [Part.text], by simp⟩
    · split at h
      · cases h
        exact ⟨.oldest c.name, rfl, hfirst, by simp [Part.text], by simp⟩
      · cases h

theorem isTail_order {p : Plan} {text t : Text} (h : p.order = order? p.target text)
    (ht : Part.IsTail p 6 t) :
    Part.IsTail p 5 ((p.order.toList.filter (· ≠ [])).flatMap ([' '] ++ ·) ++ t) := by
  cases ho : p.order with
  | none => exact ht.mono (Nat.le_succ 5)
  | some o =>
    obtain ⟨x, hrank, hfits, htext, hne⟩ := exists_part_of_order? (h.symm.trans ho)
    have htail := ht.cons hfits hrank
    rw [htext] at htail
    simpa [hne] using htail

theorem isTail_limit {p : Plan} {n : Option Nat} (h : p.limit = n.map Int.ofNat) :
    Part.IsTail p 6
      ((p.limit.toList.map ("LIMIT ".toList ++ Text.ofInt ·)).flatMap ([' '] ++ ·)) := by
  cases n with
  | none =>
    rw [h]
    exact Part.isTail_nil p 6
  | some n =>
    have hfits : (Part.limit n).Fits p := h
    have htail : Part.IsTail p 6 ((Part.limit n).text ++ []) :=
      (Part.isTail_nil p 7).cons hfits rfl
    rw [h]
    simpa [Part.text, Text.ofInt] using htail

/-! ## Statements -/

/-- What stands in front of the search expression of a plan. -/
def searchFront (settings : Settings) (p : Plan) : Text :=
  "SELECT rowid, * FROM ".toList ++ p.target.companion settings.suffix ++ " WHERE ".toList
    ++ p.target.companion settings.suffix ++ " MATCH '".toList

/-- The statement of a plan, its search in front and the rest one by one behind a blank. -/
theorem statement_eq (settings : Settings) (p : Plan) :
    p.statement settings =
      searchFront settings p ++ Sql.literalBody p.expression ++ '\'' ::
        ((p.filters.map ("AND ".toList ++ ·)).flatMap ([' '] ++ ·) ++
          ((p.order.toList.filter (· ≠ [])).flatMap ([' '] ++ ·) ++
            (p.limit.toList.map ("LIMIT ".toList ++ Text.ofInt ·)).flatMap ([' '] ++ ·))) := by
  have hjoin : p.statement settings = Text.joinWith [' ']
      ((searchFront settings p ++ Sql.literalBody p.expression ++ ['\''])
        :: (p.filters.map ("AND ".toList ++ ·) ++ (p.order.toList.filter (· ≠ []) ++
          p.limit.toList.map ("LIMIT ".toList ++ Text.ofInt ·)))) := by
    rw [← List.append_assoc]
    rfl
  rw [hjoin, Text.joinWith_cons, List.flatMap_append, List.flatMap_append, List.append_assoc]
  rfl

/-- The statement of a plan is a search and a tail of parts. -/
theorem exists_tail {settings : Settings} {catalog : Catalog} {raw : Text} {p : Plan}
    (h : (plan settings catalog raw).outcome = .ok (some p)) :
    ∃ t, Part.IsTail p 0 t ∧
      p.statement settings = searchFront settings p ++ Sql.literalBody p.expression ++ '\'' :: t := by
  obtain ⟨target, e, n, -, -, -, hp⟩ := plan_eq_some_iff.1 h
  have hlimit : p.limit = n.map Int.ofNat := by rw [hp]
  have horder : p.order = order? p.target (normalize raw) := by rw [hp]
  have hfilters : p.filters = FilterRule.all.filterMap (·.found? p.target (normalize raw)) := by
    rw [hp]
    exact filters_eq_filterMap target (normalize raw)
  have hrules : ∀ i r, FilterRule.all[i]? = some r → FilterRule.all[0 + i]? = some r := by
    intro i r hr
    rwa [Nat.zero_add]
  have hordering := isTail_order horder (isTail_limit hlimit)
  refine ⟨_, isTail_filterMap (normalize raw) hrules hordering, ?_⟩
  rw [statement_eq, hfilters]

theorem head?_tail_ne_quote {p : Plan} {n : Nat} {t : Text} (h : Part.IsTail p n t) :
    t.head? ≠ some '\'' := by
  obtain ⟨parts, -, rfl⟩ := h
  cases parts with
  | nil => simp
  | cons x parts =>
    have hx : x.text.head? = some ' ' := by cases x <;> rfl
    rw [List.flatMap_cons, List.head?_append, hx, Option.some_or]
    decide

/-- Every statement is a search for one literal and a tail of parts.  The literal reads back as the
expression of the plan and ends where the tail begins; the parts fit the plan, in the order of
their ranks, no rank twice. -/
theorem statement_shape {settings : Settings} {catalog : Catalog} {raw sql : Text}
    (h : (statement? settings catalog raw).outcome = .ok (some sql)) :
    ∃ (p : Plan) (body : Text) (parts : List Part),
      (plan settings catalog raw).outcome = .ok (some p) ∧
      catalog.resolve? (normalize raw) = some p.target ∧
      sql = "SELECT rowid, * FROM ".toList ++ p.target.companion settings.suffix
        ++ " WHERE ".toList ++ p.target.companion settings.suffix ++ " MATCH '".toList
        ++ body ++ '\'' :: parts.flatMap Part.text ∧
      Sql.readLiteral (body ++ '\'' :: parts.flatMap Part.text)
        = some (p.expression, parts.flatMap Part.text) ∧
      (parts.Pairwise fun x y => x.rank < y.rank) ∧
      ∀ x ∈ parts, x.Fits p := by
  rw [statement?_outcome] at h
  cases hplan : (plan settings catalog raw).outcome with
  | error f =>
    rw [hplan] at h
    cases h
  | ok o =>
    cases o with
    | none =>
      rw [hplan] at h
      cases h
    | some p =>
      rw [hplan] at h
      cases h
      obtain ⟨t, htail, hsql⟩ := exists_tail hplan
      have hquote := head?_tail_ne_quote htail
      obtain ⟨parts, hparts, rfl⟩ := htail
      obtain ⟨target, e, n, htarget, -, -, hp⟩ := plan_eq_some_iff.1 hplan
      refine ⟨p, Sql.literalBody p.expression, parts, rfl, ?_, hsql, ?_, hparts.sorted,
        hparts.fits⟩
      · rw [htarget, hp]
      · exact Sql.readLiteral_literalBody_append p.expression hquote

/-- A single quote in the search terms, with a condition and a limit in front of them. -/
theorem statement_shape_single_quote :
    ∃ (p : Plan) (body : Text) (parts : List Part),
      (plan {} ⟨[⟨"orders".toList, [⟨"id".toList, .integer⟩]⟩]⟩
        "Top 3 orders id 7 about o'brien".toList).outcome = .ok (some p) ∧
      "SELECT rowid, * FROM orders_fts WHERE orders_fts MATCH 'o''brien' AND id = 7 LIMIT 3".toList
        = "SELECT rowid, * FROM ".toList ++ p.target.companion "_fts".toList
          ++ " WHERE ".toList ++ p.target.companion "_fts".toList ++ " MATCH '".toList
          ++ body ++ '\'' :: parts.flatMap Part.text ∧
      Sql.readLiteral (body ++ '\'' :: parts.flatMap Part.text)
        = some (p.expression, parts.flatMap Part.text) := by
  have hplan : (plan {} ⟨[⟨"orders".toList, [⟨"id".toList, .integer⟩]⟩]⟩
      "Top 3 orders id 7 about o'brien".toList).outcome = .ok (some {
        target := ⟨"orders".toList, [⟨"id".toList, .integer⟩]⟩
        expression := "o'brien".toList
        filters := ["id = 7".toList]
        limit := some 3 }) := rfl
  have hstatement : (statement? {} ⟨[⟨"orders".toList, [⟨"id".toList, .integer⟩]⟩]⟩
      "Top 3 orders id 7 about o'brien".toList).outcome = .ok (some
      "SELECT rowid, * FROM orders_fts WHERE orders_fts MATCH 'o''brien' AND id = 7 LIMIT 3".toList)
      := by
    rw [statement?_outcome, hplan]
    rfl
  obtain ⟨p, body, parts, hp, -, hsql, hread, -, -⟩ := statement_shape hstatement
  exact ⟨p, body, parts, hp, hsql, hread⟩

end Request
end PlainSearch
