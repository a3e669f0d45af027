/-
  Proofs/Request/Selection.lean --- which marker counts, and what is searched for then.

  WHAT THIS FILE IS FOR.  Markers may be contained in one another, overlap and occur several
  times.  What counts is said here of the text alone:

      markers  =  front  m  back              none of the front occurs in the text
      text     =  before  m  rest             and m stands nowhere further to the front

  and the expression of the text is that of the rest (`matchExpression_of_firstSplit`).
  Nothing else enters: not what stands before the marker, nor what markers come after it, nor
  where those occur.  The rest is trimmed before it becomes an expression, which makes no
  difference (`expression_trim`).
-/
import PlainSearch.Proofs.Request.Margin
import PlainSearch.Proofs.Request.Marker

set_option autoImplicit false

namespace PlainSearch

/-! ## The leftmost place of a text in another -/

namespace Text

/-- A text that falls into what precedes the leftmost place of `m`, `m`, and what follows it. -/
structure IsFirstSplit (m t before rest : Text) : Prop where
  eq : t = before ++ m ++ rest
  /-- it stands nowhere further to the front -/
  least : ∀ b r, t = b ++ m ++ r → before.length ≤ b.length

variable {m t before rest before' rest' : Text}

theorem IsFirstSplit.unique (h : IsFirstSplit m t before rest)
    (h' : IsFirstSplit m t before' rest') : before = before' ∧ rest = rest' := by
  have hlength : before.length = before'.length :=
    Nat.le_antisymm (h.least before' rest' h'.eq) (h'.least before rest h.eq)
  have hsplit := h.eq.symm.trans h'.eq
  rw [List.append_assoc, List.append_assoc] at hsplit
  obtain ⟨hbefore, hback⟩ := List.append_inj hsplit hlength
  exact ⟨hbefore, List.append_cancel_left hback⟩

theorem isFirstSplit_of_splitAtFirst? (h : splitAtFirst? m t = some (before, rest)) :
    IsFirstSplit m t before rest := by
  refine ⟨eq_append_of_splitAtFirst? h, ?_⟩
  induction t generalizing before with
  | nil =>
    obtain ⟨r, -, heq⟩ := Option.map_eq_some_iff.1 h
    cases heq
    exact fun b r _ => Nat.zero_le _
  | cons c t ih =>
    unfold splitAtFirst? at h
    split at h
    · cases h
      exact fun b r _ => Nat.zero_le _
    · next hnone =>
      obtain ⟨s, hs, heq⟩ := Option.map_eq_some_iff.1 h
      cases heq
      intro b r hsplit
      cases b with
      | nil =>
        rw [List.nil_append, ← stripPrefix?_eq_some_iff, hnone] at hsplit
        cases hsplit
      | cons c' b =>
        obtain ⟨-, hrest⟩ := List.cons.inj hsplit
        exact Nat.succ_le_succ (ih hs b r hrest)

theorem splitAtFirst?_eq_some_iff :
    splitAtFirst? m t = some (before, rest) ↔ IsFirstSplit m t before rest := by
  refine ⟨isFirstSplit_of_splitAtFirst?, fun h => ?_⟩
  cases hs : splitAtFirst? m t with
  | none => exact absurd ⟨before, rest, h.eq.symm⟩ (splitAtFirst?_eq_none_iff.1 hs)
  | some s =>
    obtain ⟨rfl, rfl⟩ := (isFirstSplit_of_splitAtFirst? hs).unique h
    rfl

end Text

namespace Request

open Text (IsFirstSplit)

variable {markers front back : List Text} {text m before rest : Text}

/-! ## The marker that counts -/

theorem select?_eq_none_iff : select? markers text = none ↔ ∀ m ∈ markers, ¬ m <:+: text := by
  simp only [select?, List.findSome?_eq_none_iff, Option.map_eq_none_iff,
    Text.splitAtFirst?_eq_none_iff]

/-- Some marker is the first one that occurs, if any does. -/
theorem exists_firstSplit (h : ∃ m ∈ markers, m <:+: text) :
    ∃ front m back before rest, markers = front ++ m :: back ∧
      (∀ m' ∈ front, ¬ m' <:+: text) ∧ IsFirstSplit m text before rest := by
  cases hselect : select? markers text with
  | none =>
    obtain ⟨m, hm, hin⟩ := h
    exact absurd hin (select?_eq_none_iff.1 hselect m hm)
  | some p =>
    obtain ⟨m, rest⟩ := p
    obtain ⟨front, back, hmarkers, hfront, before, hsplit⟩ := select?_eq_some_iff.1 hselect
    exact ⟨front, m, back, before, rest, hmarkers, hfront, Text.splitAtFirst?_eq_some_iff.1 hsplit⟩

/-- The expression of a text is that of what follows the marker that counts. -/
theorem matchExpression_of_firstSplit (hm : m ≠ []) (hfront : ∀ m' ∈ front, ¬ m' <:+: text)
    (hsplit : IsFirstSplit m text before rest) :
    matchExpression (front ++ m :: back) text = expression rest := by
  have hselect : select? (front ++ m :: back) text = some (m, rest) :=
    select?_eq_some_iff.2
      ⟨front, back, rfl, hfront, before, Text.splitAtFirst?_eq_some_iff.2 hsplit⟩
  obtain ⟨a, u, rfl⟩ := List.exists_cons_of_ne_nil hm
  simp only [matchExpression, terms, hselect]
  exact expression_trim rest

theorem matchExpression_of_none (h : ∀ m ∈ markers, ¬ m <:+: text) :
    matchExpression markers text = expression text := by
  simp only [matchExpression, terms, select?_eq_none_iff.2 h]

/-- Trimming an expression changes nothing, as that has been done. -/
theorem map_trim_expression (ts : Text) : (expression ts).map Text.trim = expression ts := by
  cases he : expression ts with
  | error f => rfl
  | ok e => exact congrArg Except.ok (Text.trimBy_eq_self (isTrimmed_of_expression he))

/-- What is searched for.  If a marker occurs, the first one that does is split off at its leftmost
place, and the expression of the text is that of what follows, whatever stands before the marker
and whatever markers come behind it; if none occurs, it is the expression of the whole text.
Terms have the same expression whether they are trimmed before, or it is trimmed afterwards. -/
theorem matchExpression_of_markers (markers : List Text) (text : Text) (hmarkers : [] ∉ markers) :
    ((∃ m ∈ markers, m <:+: text) → ∃ front m back before rest, markers = front ++ m :: back ∧
      (∀ m' ∈ front, ¬ m' <:+: text) ∧ IsFirstSplit m text before rest) ∧
    (∀ front m back before rest, markers = front ++ m :: back →
      (∀ m' ∈ front, ¬ m' <:+: text) → IsFirstSplit m text before rest →
      matchExpression markers text = expression rest ∧
        ∀ back' text' before', (∀ m' ∈ front, ¬ m' <:+: text') →
          IsFirstSplit m text' before' rest →
          matchExpression (front ++ m :: back') text' = expression rest) ∧
    ((∀ m ∈ markers, ¬ m <:+: text) → matchExpression markers text = expression text) ∧
    ∀ ts, expression (Text.trim ts) = expression ts ∧
      (expression ts).map Text.trim = expression ts := by
  refine ⟨exists_firstSplit, ?_, matchExpression_of_none, ?_⟩
  · rintro front m back before rest rfl hfront hsplit
    have hm : m ≠ [] := by
      rintro rfl
      exact hmarkers (List.mem_append_right front List.mem_cons_self)
    refine ⟨matchExpression_of_firstSplit hm hfront hsplit, ?_⟩
    intro back' text' before' hfront' hsplit'
    exact matchExpression_of_firstSplit hm hfront' hsplit'
  · exact fun ts => ⟨expression_trim ts, map_trim_expression ts⟩

/-- A marker that occurs first inside another one of lower priority, with and without that other
one and what stands in front of it; and a text without any marker. -/
theorem matchExpression_of_markers_within :
    matchExpression ["about".toList, "with".toList, "without".toList]
      "cats without x near 2 y with z ".toList = .ok "out x NEAR/2 y with z".toList ∧
    matchExpression ["about".toList, "with".toList] "without x near 2 y with z ".toList
      = .ok "out x NEAR/2 y with z".toList ∧
    matchExpression ["about".toList, "with".toList, "without".toList] " \"a\" near 2 b ".toList
      = .ok "\"a\" NEAR/2 b".toList := by
  have hmarkers : [] ∉ ["about".toList, "with".toList, "without".toList] := by decide
  have hfirst : expression "out x near 2 y with z ".toList
      = .ok "out x NEAR/2 y with z".toList := by rfl
  have hplain : expression " \"a\" near 2 b ".toList = .ok "\"a\" NEAR/2 b".toList := by rfl
  have hfront {t : Text} (ht : Text.occursIn "about".toList t = false) :
      ∀ m' ∈ ["about".toList], ¬ m' <:+: t :=
    List.forall_mem_singleton.2 (Text.occursIn_eq_false_iff.1 ht)
  have hsplit : IsFirstSplit "with".toList "cats without x near 2 y with z ".toList
      "cats ".toList "out x near 2 y with z ".toList :=
    Text.splitAtFirst?_eq_some_iff.1 (by decide)
  have hsplit' : IsFirstSplit "with".toList "without x near 2 y with z ".toList []
      "out x near 2 y with z ".toList := Text.splitAtFirst?_eq_some_iff.1 (by decide)
  obtain ⟨-, hcounts, -, -⟩ := matchExpression_of_markers _
    "cats without x near 2 y with z ".toList hmarkers
  obtain ⟨-, -, hnone, -⟩ := matchExpression_of_markers _ " \"a\" near 2 b ".toList hmarkers
  obtain ⟨heq, hsame⟩ := hcounts ["about".toList] _ _ _ _ rfl (hfront (by decide)) hsplit
  refine ⟨heq.trans hfirst, (hsame [] _ _ (hfront (by decide)) hsplit').trans hfirst,
    (hnone ?_).trans hplain⟩
  rw [← select?_eq_none_iff]
  decide

end Request
end PlainSearch
