/-
  Proofs/Request/Target.lean --- a request that names a table is understood.

  WHAT THIS FILE IS FOR.  `Table.IsCalled` says what a table may be called, and
  `Table.IsNamed` that a text has such a calling in it.  The table of a request is the
  first of the catalog that is named in its normal form (`resolve?_eq_some_iff`).

  A NAME AMONG OTHER TEXT.  Trimming and lower-casing work on the whole request.  A
  name of ASCII characters comes through both, whatever stands around it: its letters
  have the same small letters everywhere (`lower_isInfix_lower`), and a name without
  blanks at its ends is not trimmed (`IsTrimmed.isInfix_trimBy`).  So if it is written
  in any letter case in a request, the request has a table (`resolve?_of_written`).
-/
import PlainSearch.Proofs.Request.Normal

set_option autoImplicit false

namespace PlainSearch

/-! ## A name in lower case -/

namespace Text

theorem toNat_lowerChar_lt {c : Char} (hc : c.toNat < 0x80) : (lowerChar c).toNat < 0x80 := by
  unfold lowerChar
  rw [if_pos hc]
  split
  · rcases toNat_ofNat_eq_or (c.toNat + 0x20) with hn | hn <;> omega
  · exact hc

theorem lowerAt_of_lt {c : Char} (hc : c.toNat < 0x80) (before after : Text) :
    lowerAt before c after = [lowerChar c] := by
  have hdot : c ≠ '\u0130' := by
    rintro rfl
    exact absurd hc (by decide)
  have hsigma : c ≠ '\u03a3' := by
    rintro rfl
    exact absurd hc (by decide)
  rw [lowerAt, if_neg hdot, if_neg hsigma]

/-- The lower case of ASCII characters is of ASCII. -/
theorem toNat_lt_of_mem_lowerAfter {t : Text} (ht : ∀ c ∈ t, c.toNat < 0x80) {before : Text}
    {a : Char} (ha : a ∈ lowerAfter before t) : a.toNat < 0x80 := by
  induction t generalizing before with
  | nil => cases ha
  | cons c t ih =>
    have hc := ht c List.mem_cons_self
    rw [lowerAfter, lowerAt_of_lt hc, List.singleton_append, List.mem_cons] at ha
    rcases ha with rfl | ha
    · exact toNat_lowerChar_lt hc
    · exact ih (fun d hd => ht d (List.mem_cons_of_mem c hd)) ha

/-- A text whose lower case is of ASCII has it character by character, whatever stands around
it. -/
theorem lowerAfter_append_of_ascii {before w : Text}
    (hw : ∀ a ∈ lowerAfter before w, a.toNat < 0x80) (before' back : Text) :
    lowerAfter before' (w ++ back) = w.map lowerChar ++ lowerAfter (w.reverse ++ before') back := by
  induction w generalizing before before' with
  | nil => rfl
  | cons c w ih =>
    rw [lowerAfter] at hw
    have hc : ∀ a ∈ lowerAt before c w, a.toNat < 0x80 := fun a ha =>
      hw a (List.mem_append_left _ ha)
    have hrest : ∀ a ∈ lowerAfter (c :: before) w, a.toNat < 0x80 := fun a ha =>
      hw a (List.mem_append_right _ ha)
    rw [List.cons_append, lowerAfter, lowerAt_of_ascii hc, ih hrest, List.map_cons,
      List.reverse_cons, List.append_assoc]
    rfl

theorem lower_eq_map_of_ascii {w : Text} (hw : ∀ a ∈ lower w, a.toNat < 0x80) :
    lower w = w.map lowerChar := by
  have h := lowerAfter_append_of_ascii hw [] []
  rwa [List.append_nil, lowerAfter, List.append_nil] at h

theorem exists_lowerAfter_append (before front t : Text) :
    ∃ x, lowerAfter before (front ++ t) = x ++ lowerAfter (front.reverse ++ before) t := by
  induction front generalizing before with
  | nil => exact ⟨[], rfl⟩
  | cons c front ih =>
    obtain ⟨x, hx⟩ := ih (c :: before)
    refine ⟨lowerAt before c (front ++ t) ++ x, ?_⟩
    rw [List.cons_append, lowerAfter, hx, List.reverse_cons, List.append_assoc, List.append_assoc]
    rfl

/-- A text whose lower case is of ASCII keeps it inside any other text. -/
theorem lower_isInfix_lower {w t : Text} (hw : ∀ a ∈ lower w, a.toNat < 0x80) (h : w <:+: t) :
    lower w <:+: lower t := by
  obtain ⟨front, back, rfl⟩ := h
  obtain ⟨x, hx⟩ := exists_lowerAfter_append [] front (w ++ back)
  refine ⟨x, lowerAfter (w.reverse ++ (front.reverse ++ [])) back, ?_⟩
  rw [lower_eq_map_of_ascii hw, lower, List.append_assoc front, hx, lowerAfter_append_of_ascii hw,
    List.append_assoc]

theorem isTrimmed_of_map_lowerChar {w : Text} (h : IsTrimmed isBlank (w.map lowerChar)) :
    IsTrimmed isBlank w := by
  constructor
  · intro c hc
    rw [← isBlank_lowerChar]
    apply h.head
    rw [List.head?_map, Option.mem_def.1 hc]
    rfl
  · intro c hc
    rw [← isBlank_lowerChar]
    apply h.last
    rw [List.getLast?_map, Option.mem_def.1 hc]
    rfl

end Text

/-! ## Callings -/

namespace Table

/-- A table is called by its name in lower case, or by that without one final s, but never by the
empty text. -/
def IsCalled (t : Table) (w : Text) : Prop :=
  w ≠ [] ∧ (w = Text.lower t.name ∨ w ++ ['s'] = Text.lower t.name)

/-- What a table is called stands in a text. -/
def IsNamed (t : Table) (text : Text) : Prop := ∃ w, t.IsCalled w ∧ w <:+: text

theorem mem_callings_iff {t : Table} {w : Text} : w ∈ t.callings ↔ t.IsCalled w := by
  have hsingular : w = Text.lower t.name ∨ w = Request.singular (Text.lower t.name) ↔
      w = Text.lower t.name ∨ w ++ ['s'] = Text.lower t.name := by
    unfold Request.singular
    cases hs : Text.stripSuffix? ['s'] (Text.lower t.name) with
    | none =>
      -- a name that does not end in s is its own singular
      have hend : w ++ ['s'] ≠ Text.lower t.name := by
        intro heq
        rw [Text.stripSuffix?_eq_some_iff.2 heq.symm] at hs
        cases hs
      simp [hend]
    | some r =>
      rw [Text.stripSuffix?_eq_some_iff.1 hs, Option.getD_some, List.append_cancel_right_eq]
  rw [callings, IsCalled, List.mem_filter, List.mem_cons, List.mem_singleton, hsingular, and_comm]
  simp

theorem isNamedIn_iff {t : Table} {text : Text} : t.isNamedIn text = true ↔ t.IsNamed text := by
  simp only [isNamedIn, IsNamed, List.any_eq_true, mem_callings_iff, Text.occursIn_iff]

end Table

/-! ## The table of a request -/

/-- The table of a text is the first that is named in it. -/
theorem Catalog.resolve?_eq_some_iff {c : Catalog} {text : Text} {t : Table} :
    c.resolve? text = some t ↔
      ∃ front back, c.tables = front ++ t :: back ∧ t.IsNamed text ∧
        ∀ u ∈ front, ¬ u.IsNamed text := by
  rw [resolve?, List.find?_eq_some_iff_append, Table.isNamedIn_iff]
  simp only [Bool.not_eq_true', ← Bool.not_eq_true, Table.isNamedIn_iff]
  constructor
  · rintro ⟨hnamed, front, back, htables, hfront⟩
    exact ⟨front, back, htables, hnamed, hfront⟩
  · rintro ⟨front, back, htables, hnamed, hfront⟩
    exact ⟨hnamed, front, back, htables, hfront⟩

/-- With a table that is named in a text, the text has a table, which stands no later. -/
theorem Catalog.exists_resolve?_of_isNamed {c : Catalog} {text : Text} {t : Table} {i : Nat}
    (hplace : c.tables[i]? = some t) (hnamed : t.IsNamed text) :
    ∃ front target back, c.resolve? text = some target ∧ c.tables = front ++ target :: back ∧
      target.IsNamed text ∧ (∀ u ∈ front, ¬ u.IsNamed text) ∧ front.length ≤ i := by
  cases hfind : c.resolve? text with
  | none =>
    have hnone := List.find?_eq_none.1 hfind t (List.mem_of_getElem? hplace)
    exact absurd (Table.isNamedIn_iff.2 hnamed) hnone
  | some target =>
    obtain ⟨front, back, htables, htarget, hfront⟩ := Catalog.resolve?_eq_some_iff.1 hfind
    refine ⟨front, target, back, rfl, htables, htarget, hfront, Nat.le_of_not_lt fun hlt => ?_⟩
    rw [htables, List.getElem?_append_left hlt] at hplace
    exact hfront t (List.mem_of_getElem? hplace) hnamed

namespace Request

/-- A table is named in every request in which its name is written in any letter case. -/
theorem isNamed_normalize {t : Table} {raw written : Text} (hne : t.name ≠ [])
    (hascii : ∀ c ∈ t.name, c.toNat < 0x80) (htrimmed : Text.IsTrimmed Text.isBlank t.name)
    (hwritten : Text.lower written = Text.lower t.name) (hin : written <:+: raw) :
    t.IsNamed (normalize raw) := by
  have hlower : ∀ a ∈ Text.lower written, a.toNat < 0x80 := by
    rw [hwritten]
    exact fun a ha => Text.toNat_lt_of_mem_lowerAfter hascii ha
  have hends : Text.IsTrimmed Text.isBlank written := by
    apply Text.isTrimmed_of_map_lowerChar
    rw [← Text.lower_eq_map_of_ascii hlower, hwritten]
    exact htrimmed.lower
  have hname : Text.lower t.name ≠ [] := Text.lowerAfter_ne_nil hne []
  refine ⟨Text.lower t.name, ⟨hname, .inl rfl⟩, ?_⟩
  rw [← hwritten]
  exact Text.lower_isInfix_lower hlower (hends.isInfix_trimBy hin)

/-- A request in which the name of a table is written in any letter case has a table.  It is the
first of the catalog that is named in the request, so it stands no later than that one, and it
would be the table of the request in a catalog of its own. -/
theorem resolve?_of_written {catalog : Catalog} {t : Table} {i : Nat} {raw written : Text}
    (hplace : catalog.tables[i]? = some t) (hne : t.name ≠ [])
    (hascii : ∀ c ∈ t.name, c.toNat < 0x80) (htrimmed : Text.IsTrimmed Text.isBlank t.name)
    (hwritten : Text.lower written = Text.lower t.name) (hin : written <:+: raw) :
    ∃ (j : Nat) (target : Table),
      catalog.resolve? (normalize raw) = some target ∧
      catalog.tables[j]? = some target ∧ j ≤ i ∧
      target.IsNamed (normalize raw) ∧
      (∀ k < j, ∀ u, catalog.tables[k]? = some u → ¬ u.IsNamed (normalize raw)) ∧
      Catalog.resolve? ⟨[target]⟩ (normalize raw) = some target := by
  have hnamed := isNamed_normalize hne hascii htrimmed hwritten hin
  obtain ⟨front, target, back, hresolve, htables, htarget, hfirst, hle⟩ :=
    Catalog.exists_resolve?_of_isNamed hplace hnamed
  have halone : Catalog.resolve? ⟨[target]⟩ (normalize raw) = some target :=
    Catalog.resolve?_eq_some_iff.2 ⟨[], [], rfl, htarget, nofun⟩
  refine ⟨front.length, target, hresolve, ?_, hle, htarget, ?_, halone⟩
  · rw [htables, List.getElem?_append_right (Nat.le_refl _), Nat.sub_self]
    rfl
  · intro k hk u hu
    rw [htables, List.getElem?_append_left hk] at hu
    exact hfirst u (List.mem_of_getElem? hu)

/-- A name in capitals between letters of another script; a table called by a part of it stands
before its own, and is the one that counts. -/
theorem resolve?_of_written_singular :
    ∃ (j : Nat) (target : Table),
      Catalog.resolve? ⟨[⟨[], []⟩, ⟨"SS".toList, []⟩, ⟨"Orders".toList, []⟩]⟩
        (normalize ("ΑΣ".toList ++ "ORDERS".toList ++ "Σ?".toList)) = some target ∧
      j ≤ 2 ∧ target.name = "SS".toList := by
  have hwritten : Text.lower "ORDERS".toList = Text.lower "Orders".toList :=
    Text.lower_eq_of_eqIgnoringAsciiCase (by decide)
  have htrimmed : Text.IsTrimmed Text.isBlank "Orders".toList := by
    constructor
    · rintro c ⟨⟩
      decide
    · rintro c ⟨⟩
      decide
  have hascii : ∀ c ∈ "Orders".toList, c.toNat < 0x80 := by simp
  have hplace : (⟨[⟨[], []⟩, ⟨"SS".toList, []⟩, ⟨"Orders".toList, []⟩]⟩ : Catalog).tables[2]?
      = some ⟨"Orders".toList, []⟩ := rfl
  have hin : "ORDERS".toList <:+: "ΑΣ".toList ++ "ORDERS".toList ++ "Σ?".toList := ⟨_, _, rfl⟩
  obtain ⟨j, target, hresolve, -, hle, -, -, -⟩ :=
    resolve?_of_written hplace (by decide) hascii htrimmed hwritten hin
  have hfound : Catalog.resolve? ⟨[⟨[], []⟩, ⟨"SS".toList, []⟩, ⟨"Orders".toList, []⟩]⟩
      (normalize ("ΑΣ".toList ++ "ORDERS".toList ++ "Σ?".toList))
        = some ⟨"SS".toList, []⟩ := by decide +kernel
  refine ⟨j, target, hresolve, hle, ?_⟩
  rw [Option.some.inj (hresolve.symm.trans hfound)]

end Request
end PlainSearch
