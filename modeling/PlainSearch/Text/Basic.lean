/-
  Text/Basic.lean --- text as a list of characters, and finding one text in another.

  WHAT THIS FILE IS FOR.  Everything this library reads or writes (requests,
  names, search expressions, statements, documents) is a `Text`: a list of
  characters.  Lists are what the recursions below follow and what the facts
  about them are stated on; the outer layer packs and unpacks strings.

  THE THREE WAYS TO LOOK FOR A TEXT.  `stripPrefix?` looks at the front,
  `stripSuffix?` at the end, and `splitAtFirst?` for the leftmost place anywhere.
  Each returns what is left over, and each comes with the equation that says so:
  nothing is lost and nothing is invented.
-/
set_option autoImplicit false

namespace PlainSearch

/-- Text, character by character. -/
abbrev Text : Type := List Char

namespace Text

/-! ## At the front and at the end -/

/-- What follows the text `p` at the front of a text, if `p` stands there. -/
def stripPrefix? : Text → Text → Option Text
  | [], t => some t
  | _ :: _, [] => none
  | p :: ps, c :: t => if p = c then stripPrefix? ps t else none

theorem stripPrefix?_eq_some_iff {p t r : Text} : stripPrefix? p t = some r ↔ t = p ++ r := by
  induction p generalizing t with
  | nil => simp [stripPrefix?, eq_comm]
  | cons a ps ih =>
    cases t with
    | nil => simp [stripPrefix?]
    | cons c t =>
      by_cases h : a = c
      · simp [stripPrefix?, h, ih]
      · simp [stripPrefix?, h, Ne.symm h]

/-- The text begins with `p`. -/
def startsWith (p t : Text) : Bool := (stripPrefix? p t).isSome

/-- What precedes the text `s` at the end of a text, if `s` stands there. -/
def stripSuffix? (s t : Text) : Option Text := (stripPrefix? s.reverse t.reverse).map List.reverse

theorem stripSuffix?_eq_some_iff {s t r : Text} : stripSuffix? s t = some r ↔ t = r ++ s := by
  simp only [stripSuffix?, Option.map_eq_some_iff, stripPrefix?_eq_some_iff]
  constructor
  · rintro ⟨a, h, rfl⟩
    simpa using congrArg List.reverse h
  · rintro rfl
    exact ⟨r.reverse, by simp, by simp⟩

/-- The text ends with `s`. -/
def endsWith (s t : Text) : Bool := (stripSuffix? s t).isSome

theorem endsWith_iff {s t : Text} : endsWith s t = true ↔ ∃ r, t = r ++ s := by
  simp [endsWith, Option.isSome_iff_exists, stripSuffix?_eq_some_iff]

/-! ## Anywhere -/

/-- The text around the leftmost occurrence of `m`: what precedes it and what follows it. -/
def splitAtFirst? (m : Text) : Text → Option (Text × Text)
  | [] => (stripPrefix? m []).map ([], ·)
  | c :: t =>
    match stripPrefix? m (c :: t) with
    | some r => some ([], r)
    | none => (splitAtFirst? m t).map fun s => (c :: s.1, s.2)

theorem eq_append_of_splitAtFirst? {m t a b : Text} (h : splitAtFirst? m t = some (a, b)) :
    t = a ++ m ++ b := by
  induction t generalizing a with
  | nil =>
    simp only [splitAtFirst?, Option.map_eq_some_iff, Prod.mk.injEq] at h
    obtain ⟨r, hr, rfl, rfl⟩ := h
    simpa using stripPrefix?_eq_some_iff.1 hr
  | cons c t ih =>
    simp only [splitAtFirst?] at h
    split at h
    · next r hr =>
      cases h
      simpa using stripPrefix?_eq_some_iff.1 hr
    · simp only [Option.map_eq_some_iff, Prod.mk.injEq] at h
      obtain ⟨⟨a', b'⟩, hs, rfl, rfl⟩ := h
      simpa using ih hs

/-- The text `m` stands somewhere in a text. -/
def occursIn (m t : Text) : Bool := (splitAtFirst? m t).isSome

theorem splitAtFirst?_eq_none_iff {m t : Text} : splitAtFirst? m t = none ↔ ¬ m <:+: t := by
  induction t with
  | nil =>
    simp only [splitAtFirst?, Option.map_eq_none_iff]
    cases m <;> simp [stripPrefix?]
  | cons c t ih =>
    have hfront : stripPrefix? m (c :: t) = none ↔ ¬ m <+: c :: t := by
      rw [Option.eq_none_iff_forall_ne_some]
      simp only [ne_eq, stripPrefix?_eq_some_iff, List.IsPrefix, not_exists]
      exact forall_congr' fun r => not_congr eq_comm
    rw [List.infix_cons_iff, not_or, ← hfront, ← ih]
    simp only [splitAtFirst?]
    split
    · next r hr => simp [hr]
    · next hr => simp [hr]

/-- A text stands in another exactly if it is a contiguous part of it. -/
theorem occursIn_iff {m t : Text} : occursIn m t = true ↔ m <:+: t := by
  rw [occursIn, Option.isSome_iff_ne_none, ne_eq, splitAtFirst?_eq_none_iff, Decidable.not_not]

theorem occursIn_eq_false_iff {m t : Text} : occursIn m t = false ↔ ¬ m <:+: t := by
  rw [← occursIn_iff, Bool.not_eq_true]

/-! ## Characters by range -/

/-- The code point `n` lies in one of the inclusive ranges. -/
def inRanges (rs : List (Nat × Nat)) (n : Nat) : Bool := rs.any fun r => r.1 ≤ n && n ≤ r.2

theorem inRanges_iff {rs : List (Nat × Nat)} {n : Nat} :
    inRanges rs n = true ↔ ∃ r ∈ rs, r.1 ≤ n ∧ n ≤ r.2 := by
  simp [inRanges, List.any_eq_true]

/-! ## Putting texts together -/

/-- The texts one after the other, with `sep` between neighbours. -/
def joinWith (sep : Text) : List Text → Text
  | [] => []
  | [t] => t
  | t :: u :: ts => t ++ sep ++ joinWith sep (u :: ts)

/-- Every text but the first has the separator in front. -/
theorem joinWith_cons (sep t : Text) (ts : List Text) :
    joinWith sep (t :: ts) = t ++ ts.flatMap (sep ++ ·) := by
  induction ts generalizing t with
  | nil => simp [joinWith]
  | cons u us ih => rw [joinWith, ih, List.flatMap_cons, List.append_assoc, List.append_assoc]

/-- The pieces of a text between the occurrences of the character `c`; always at least one. -/
def splitOn (c : Char) : Text → List Text
  | [] => [[]]
  | a :: t =>
    if a = c then [] :: splitOn c t
    else match splitOn c t with
      | [] => [[a]]
      | p :: ps => (a :: p) :: ps

theorem splitOn_ne_nil (c : Char) (t : Text) : splitOn c t ≠ [] := by
  induction t with
  | nil => simp [splitOn]
  | cons a t _ =>
    simp only [splitOn]
    split
    · simp
    · split <;> simp

theorem joinWith_splitOn (c : Char) (t : Text) : joinWith [c] (splitOn c t) = t := by
  induction t with
  | nil => rfl
  | cons a t ih =>
    obtain ⟨p, ps, hs⟩ := List.exists_cons_of_ne_nil (splitOn_ne_nil c t)
    simp only [splitOn, hs]
    rw [hs] at ih
    split
    · next h => simp [joinWith, ih, h]
    · cases ps with
      | nil => simpa [joinWith] using ih
      | cons q qs => simpa [joinWith] using ih

/-- Each occurrence of the character `c` is written as the text `w`. -/
def substitute (c : Char) (w t : Text) : Text := t.flatMap fun a => if a = c then w else [a]

theorem substitute_append (c : Char) (w s t : Text) :
    substitute c w (s ++ t) = substitute c w s ++ substitute c w t := by
  simp [substitute]

/-- A text is brought to at least `n` characters by adding `c` in front. -/
def padLeft (n : Nat) (c : Char) (t : Text) : Text := List.replicate (n - t.length) c ++ t

/-- A text is brought to at least `n` characters by adding `c` at its end. -/
def padRight (n : Nat) (c : Char) (t : Text) : Text := t ++ List.replicate (n - t.length) c

end Text
end PlainSearch
