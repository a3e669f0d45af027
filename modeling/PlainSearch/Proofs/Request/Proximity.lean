/-
  Proofs/Request/Proximity.lean --- which proximity operators are written, and which are left.

  WHAT THIS FILE IS FOR.  A proximity operator of search terms is made of seven tokens:

      k       k + 1   k + 2   k + 3   k + 4      k + 5   k + 6
      word    gap     near    gap     distance   gap     word            (`OperatorAt`)

  Two operators can have tokens in common in two ways only: the second begins at the distance
  or at the right operand of the first (`OperatorAt.apart`), as in

      a near 2 near 3 b          a near 2 b near 3 c

  WHAT IS WRITTEN.  Writing goes from left to right and is done with all seven tokens of an
  operator at once.  Seven new ones take their places (`WrittenAt`), so that a place means the
  same before and after.  An operator is left unwritten exactly if it begins at the distance or
  at the right operand of a written one, and it is then an operator still.  The writing makes
  no others.  So of a chain every second operator is left, and

      some operator is left  ↔  two operators of the terms have tokens in common

  (`Request.proximity_remains_iff`).
-/
import PlainSearch.Proofs.Request.Ends
import PlainSearch.Proofs.Request.Expression

set_option autoImplicit false

namespace PlainSearch
namespace Token

/-! ## Operators among tokens -/

/-- The word near, in any letter case. -/
def isNearWord : Token → Bool
  | .word ss => isNear ss
  | _ => false

/-- A word of digits. -/
def isDistance : Token → Bool
  | .word ss => ss.all isDigitSymbol
  | _ => false

/-- A proximity operator begins at the place `k` among tokens. -/
structure OperatorAt (ts : List Token) (k : Nat) : Prop where
  left : ts[k]?.any isWord = true
  gap₁ : ts[k + 1]?.any isGap = true
  near : ts[k + 2]?.any isNearWord = true
  gap₂ : ts[k + 3]?.any isGap = true
  distance : ts[k + 4]?.any isDistance = true
  gap₃ : ts[k + 5]?.any isGap = true
  right : ts[k + 6]?.any isWord = true

variable {ts us : List Token} {o o' : Option Token} {i j k : Nat}

/-- A token of a class that has neither gaps nor marks is a word. -/
theorem exists_word_of_any {p : Token → Bool} (h : o.any p = true)
    (hgap : ∀ cs, p (.gap cs) = false) (hmark : ∀ c, p (.mark c) = false) :
    ∃ ss, o = some (.word ss) ∧ p (.word ss) = true := by
  obtain ⟨t, rfl, ht⟩ := (Option.any_eq_true p o).1 h
  cases t with
  | word ss => exact ⟨ss, rfl, ht⟩
  | gap cs => exact absurd ht (Bool.eq_false_iff.1 (hgap cs))
  | mark c => exact absurd ht (Bool.eq_false_iff.1 (hmark c))

theorem exists_gap_of_any (h : o.any isGap = true) : ∃ cs, o = some (.gap cs) := by
  obtain ⟨t, rfl, ht⟩ := (Option.any_eq_true isGap o).1 h
  cases t with
  | gap cs => exact ⟨cs, rfl⟩
  | word ss => cases ht
  | mark c => cases ht

/-- No number is spelled near. -/
theorem isNear_eq_false_of_all {ss : List Symbol} (h : ss.all isDigitSymbol = true) :
    isNear ss = false := by
  rw [Bool.eq_false_iff]
  intro hnear
  obtain ⟨t, rfl, -, ht⟩ := exists_text_of_isNear hnear
  cases t with
  | nil => cases ht
  | cons c t =>
    have hdigit : Text.isDigit c = true := List.all_eq_true.1 h (.char c) List.mem_cons_self
    have hsame := Text.apply_asciiLowerChar Text.isDigit (by decide) c
    rw [(List.cons.inj ht).1, hdigit] at hsame
    cases hsame

theorem not_word_of_gap (h : o.any isGap = true) (h' : o.any isWord = true) : False := by
  obtain ⟨cs, rfl⟩ := exists_gap_of_any h
  cases h'

theorem not_near_of_distance (h : o.any isDistance = true) (h' : o.any isNearWord = true) :
    False := by
  obtain ⟨ss, rfl, hdigits⟩ := exists_word_of_any h (fun _ => rfl) fun _ => rfl
  exact absurd h' (Bool.eq_false_iff.1 (isNear_eq_false_of_all hdigits))

/-- Two operators have tokens in common only if the second begins at the distance or at the right
operand of the first. -/
theorem OperatorAt.apart (h : OperatorAt ts i) (h' : OperatorAt ts j) (hij : i < j) :
    j = i + 4 ∨ j = i + 6 ∨ i + 7 ≤ j := by
  by_contra hnot
  have hcases : j = i + 1 ∨ j = i + 2 ∨ j = i + 3 ∨ j = i + 5 := by omega
  rcases hcases with rfl | rfl | rfl | rfl
  · exact not_word_of_gap h.gap₁ h'.left
  · exact not_near_of_distance h.distance h'.near
  · exact not_word_of_gap h.gap₂ h'.left
  · exact not_word_of_gap h.gap₃ h'.left

/-- No token of an operator is a mark. -/
theorem OperatorAt.ne_mark (h : OperatorAt ts k) {r : Nat} (hr : r < 7) (c : Char) :
    ts[k + r]? ≠ some (.mark c) := by
  have hmark {p : Token → Bool} (hp : ts[k + r]?.any p = true) (hc : p (.mark c) = false) :
      ts[k + r]? ≠ some (.mark c) := by
    intro hm
    rw [hm, Option.any_some, hc] at hp
    cases hp
  match r, hr with
  | 0, _ => exact hmark h.left rfl
  | 1, _ => exact hmark h.gap₁ rfl
  | 2, _ => exact hmark h.near rfl
  | 3, _ => exact hmark h.gap₂ rfl
  | 4, _ => exact hmark h.distance rfl
  | 5, _ => exact hmark h.gap₃ rfl
  | 6, _ => exact hmark h.right rfl

/-! ## Tokens that are alike -/

/-- Two tokens can play the same parts in operators. -/
def Alike (o o' : Option Token) : Prop :=
  ∀ p ∈ [isWord, isGap, isNearWord, isDistance], o.any p = o'.any p

theorem Alike.of_eq (h : o = o') : Alike o o' := by
  rw [h]
  exact fun p _ => rfl

theorem Alike.symm (h : Alike o o') : Alike o' o := fun p hp => (h p hp).symm

/-- Where the tokens are alike, the operators are the same. -/
theorem OperatorAt.of_alike (h : OperatorAt ts i) (hsame : ∀ r < 7, Alike ts[i + r]? us[k + r]?) :
    OperatorAt us k where
  left := (hsame 0 (by decide) isWord (by simp)).symm.trans h.left
  gap₁ := (hsame 1 (by decide) isGap (by simp)).symm.trans h.gap₁
  near := (hsame 2 (by decide) isNearWord (by simp)).symm.trans h.near
  gap₂ := (hsame 3 (by decide) isGap (by simp)).symm.trans h.gap₂
  distance := (hsame 4 (by decide) isDistance (by simp)).symm.trans h.distance
  gap₃ := (hsame 5 (by decide) isGap (by simp)).symm.trans h.gap₃
  right := (hsame 6 (by decide) isWord (by simp)).symm.trans h.right

theorem alike_of_isGap (h : o.any isGap = true) (h' : o'.any isGap = true) : Alike o o' := by
  obtain ⟨cs, rfl⟩ := exists_gap_of_any h
  obtain ⟨cs', rfl⟩ := exists_gap_of_any h'
  simp [Alike, isWord, isGap, isNearWord, isDistance]

theorem alike_of_isNearWord (h : o.any isNearWord = true) (h' : o'.any isNearWord = true) :
    Alike o o' := by
  have hdistance {x : Option Token} (hx : x.any isNearWord = true) : x.any isDistance = false :=
    Bool.eq_false_iff.2 fun hd => not_near_of_distance hd hx
  have hsame := (hdistance h).trans (hdistance h').symm
  obtain ⟨ss, rfl, -⟩ := exists_word_of_any h (fun _ => rfl) fun _ => rfl
  obtain ⟨ss', rfl, -⟩ := exists_word_of_any h' (fun _ => rfl) fun _ => rfl
  simp only [Alike, List.forall_mem_cons, List.not_mem_nil, false_implies, implies_true, and_true]
  exact ⟨rfl, rfl, h.trans h'.symm, hsame⟩

/-! ## Operators that are written -/

/-- The operator at the place `k` is written: the word near in capitals, behind it a slash and the
distance, and one blank on either side. -/
def WrittenAt (ts us : List Token) (k : Nat) : Prop :=
  OperatorAt ts k ∧ ∃ a n b rest, ts[k]? = some (.word a) ∧ ts[k + 4]? = some (.word n) ∧
    ts[k + 6]? = some (.word b) ∧ us.drop k = proximity a n b ++ rest

theorem getElem?_of_drop_eq_append {xs rest : List Token} (h : us.drop k = xs ++ rest) {r : Nat}
    (hr : r < xs.length) : us[k + r]? = xs[r]? := by
  rw [← List.getElem?_drop, h, List.getElem?_append_left hr]

theorem WrittenAt.slash (h : WrittenAt ts us k) : us[k + 3]? = some (.mark '/') := by
  obtain ⟨-, a, n, b, rest, -, -, -, hdrop⟩ := h
  exact getElem?_of_drop_eq_append hdrop (by decide : 3 < 7)

/-- But for the slash, what is written is like what was there. -/
theorem WrittenAt.alike (h : WrittenAt ts us k) {r : Nat} (hr : r < 7) (hslash : r ≠ 3) :
    Alike ts[k + r]? us[k + r]? := by
  obtain ⟨hop, a, n, b, rest, ha, hn, hb, hdrop⟩ := h
  have hus (r : Nat) (hr : r < 7) : us[k + r]? = (proximity a n b)[r]? :=
    getElem?_of_drop_eq_append hdrop hr
  match r, hr with
  | 0, _ => exact .of_eq (ha.trans (hus 0 (by decide)).symm)
  | 1, _ => exact alike_of_isGap hop.gap₁ (by rw [hus 1 (by decide)]; rfl)
  | 2, _ => exact alike_of_isNearWord hop.near (by rw [hus 2 (by decide)]; rfl)
  | 3, _ => exact absurd rfl hslash
  | 4, _ => exact .of_eq (hn.trans (hus 4 (by decide)).symm)
  | 5, _ => exact alike_of_isGap hop.gap₃ (by rw [hus 5 (by decide)]; rfl)
  | 6, _ => exact .of_eq (hb.trans (hus 6 (by decide)).symm)

/-- What tokens become, place by place: at the places in `S` operators are written, none of them
reaching into the next; every operator has tokens in common with one of these, and nothing else
changes. -/
structure Places (ts us : List Token) (S : Nat → Prop) : Prop where
  written : ∀ i, S i → WrittenAt ts us i
  /-- no two of them have tokens in common -/
  apart : ∀ i j, S i → S j → i < j → i + 7 ≤ j
  /-- every operator begins in one of them -/
  found : ∀ k, OperatorAt ts k → ∃ i, S i ∧ i ≤ k ∧ k < i + 7
  /-- outside of them, tokens are kept -/
  kept : ∀ k, (∀ i, S i → k < i ∨ i + 7 ≤ k) → us[k]? = ts[k]?

/-! ## The places of a writing -/

theorem getElem?_append_add (xs ts : List Token) (k : Nat) :
    (xs ++ ts)[xs.length + k]? = ts[k]? := by
  rw [List.getElem?_append_right (Nat.le_add_right _ _), Nat.add_sub_cancel_left]

/-- Tokens in front only move the operators. -/
theorem operatorAt_append_iff (xs : List Token) :
    OperatorAt (xs ++ ts) (xs.length + k) ↔ OperatorAt ts k := by
  have hsame (r : Nat) : (xs ++ ts)[xs.length + k + r]? = ts[k + r]? := by
    rw [Nat.add_assoc, getElem?_append_add]
  exact ⟨fun h => h.of_alike fun r _ => .of_eq (hsame r),
    fun h => h.of_alike fun r _ => .of_eq (hsame r).symm⟩

theorem WrittenAt.append (h : WrittenAt ts us k) (xs ys : List Token)
    (hlength : xs.length = ys.length) : WrittenAt (xs ++ ts) (ys ++ us) (xs.length + k) := by
  obtain ⟨hop, a, n, b, rest, ha, hn, hb, hdrop⟩ := h
  refine ⟨(operatorAt_append_iff xs).2 hop, a, n, b, rest, ?_, ?_, ?_, ?_⟩
  · rw [getElem?_append_add, ha]
  · rw [Nat.add_assoc, getElem?_append_add, hn]
  · rw [Nat.add_assoc, getElem?_append_add, hb]
  · rw [hlength, List.drop_length_add_append, hdrop]

variable {S : Nat → Prop}

theorem places_nil : Places [] [] fun _ => False where
  written _ h := h.elim
  apart _ _ h := h.elim
  found _ h := absurd h.left (by simp)
  kept _ _ := rfl

/-- A token is kept where no operator begins. -/
theorem Places.keep {t : Token} (h : Places ts us S) (ht : ¬ OperatorAt (t :: ts) 0) :
    Places (t :: ts) (t :: us) fun k => ∃ i, S i ∧ k = 1 + i where
  written := by
    rintro _ ⟨i, hi, rfl⟩
    exact (h.written i hi).append [t] [t] rfl
  apart := by
    rintro _ _ ⟨i, hi, rfl⟩ ⟨j, hj, rfl⟩ hij
    have := h.apart i j hi hj (by omega)
    omega
  found := by
    intro k hk
    cases k with
    | zero => exact absurd hk ht
    | succ k =>
      rw [Nat.add_comm] at hk
      obtain ⟨i, hi, hle, hlt⟩ := h.found k ((operatorAt_append_iff [t]).1 hk)
      exact ⟨1 + i, ⟨i, hi, rfl⟩, by omega, by omega⟩
  kept := by
    intro k hk
    cases k with
    | zero => rfl
    | succ k =>
      refine h.kept k fun i hi => ?_
      have := hk (1 + i) ⟨i, hi, rfl⟩
      omega

/-- An operator is written where one begins. -/
theorem Places.near (h : Places ts us S) (xs ys : List Token) (hxs : xs.length = 7)
    (hys : ys.length = 7) (hwritten : WrittenAt (xs ++ ts) (ys ++ us) 0) :
    Places (xs ++ ts) (ys ++ us) fun k => k = 0 ∨ ∃ i, S i ∧ k = 7 + i where
  written := by
    rintro _ (rfl | ⟨i, hi, rfl⟩)
    · exact hwritten
    · rw [← hxs]
      exact (h.written i hi).append xs ys (hxs.trans hys.symm)
  apart := by
    rintro _ _ (rfl | ⟨i, hi, rfl⟩) (rfl | ⟨j, hj, rfl⟩) hij
    · omega
    · omega
    · omega
    · have := h.apart i j hi hj (by omega)
      omega
  found := by
    intro k hk
    by_cases hlt : k < 7
    · exact ⟨0, .inl rfl, Nat.zero_le k, by omega⟩
    · obtain ⟨k, rfl⟩ := Nat.exists_eq_add_of_le (Nat.le_of_not_lt hlt)
      rw [← hxs, operatorAt_append_iff] at hk
      obtain ⟨i, hi, hle, hlt⟩ := h.found k hk
      exact ⟨7 + i, .inr ⟨i, hi, rfl⟩, by omega, by omega⟩
  kept := by
    intro k hk
    have hle := hk 0 (.inl rfl)
    obtain ⟨k, rfl⟩ := Nat.exists_eq_add_of_le (show 7 ≤ k by omega)
    have hus := getElem?_append_add ys us k
    have hts := getElem?_append_add xs ts k
    rw [hys] at hus
    rw [hxs] at hts
    rw [hus, hts]
    refine h.kept k fun i hi => ?_
    have := hk (7 + i) (.inr ⟨i, hi, rfl⟩)
    omega

theorem drop_eq_cons {t : Token} (h : ts[k]? = some t) : ts.drop k = t :: ts.drop (k + 1) := by
  obtain ⟨hk, rfl⟩ := List.getElem?_eq_some_iff.1 h
  exact List.drop_eq_getElem_cons hk

/-- Where an operator begins, it is recognized. -/
theorem OperatorAt.proximityAt?_ne_none (h : OperatorAt ts 0) : proximityAt? ts ≠ none := by
  obtain ⟨a, ha, -⟩ := exists_word_of_any h.left (fun _ => rfl) fun _ => rfl
  obtain ⟨g, hg⟩ := exists_gap_of_any h.gap₁
  obtain ⟨w, hw, hnear⟩ := exists_word_of_any h.near (fun _ => rfl) fun _ => rfl
  obtain ⟨g', hg'⟩ := exists_gap_of_any h.gap₂
  obtain ⟨n, hn, hdigits⟩ := exists_word_of_any h.distance (fun _ => rfl) fun _ => rfl
  obtain ⟨g'', hg''⟩ := exists_gap_of_any h.gap₃
  obtain ⟨b, hb, -⟩ := exists_word_of_any h.right (fun _ => rfl) fun _ => rfl
  have hts : ts = .word a :: .gap g :: .word w :: .gap g' :: .word n :: .gap g'' :: .word b
      :: ts.drop 7 := by
    rw [← drop_eq_cons hb, ← drop_eq_cons hg'', ← drop_eq_cons hn, ← drop_eq_cons hg',
      ← drop_eq_cons hw, ← drop_eq_cons hg, ← drop_eq_cons ha, List.drop_zero]
  have hoperator : (isNear w && n.all isDigitSymbol) = true :=
    Bool.and_eq_true_iff.2 ⟨hnear, hdigits⟩
  rw [hts, proximityAt?, if_pos hoperator]
  exact Option.some_ne_none _

theorem Written.exists_places (h : Written ts us) : ∃ S, Places ts us S := by
  induction h with
  | nil => exact ⟨_, places_nil⟩
  | keep hnone _ ih =>
    obtain ⟨S, hS⟩ := ih
    exact ⟨_, hS.keep fun hop => hop.proximityAt?_ne_none hnone⟩
  | @near a w n b g g' g'' ts us hnear hdigits _ ih =>
    obtain ⟨S, hS⟩ := ih
    refine ⟨_, hS.near [.word a, .gap g, .word w, .gap g', .word n, .gap g'', .word b]
      (proximity a n b) rfl rfl ⟨?_, a, n, b, us, rfl, rfl, rfl, rfl⟩⟩
    exact ⟨rfl, rfl, hnear, rfl, hdigits, rfl, rfl⟩

/-! ## Operators that are left -/

namespace Places

variable (h : Places ts us S)

include h

/-- The tokens before and after are alike everywhere but at the slashes. -/
theorem alike_or (m : Nat) : (∃ i, S i ∧ m = i + 3) ∨ Alike ts[m]? us[m]? := by
  by_cases hcovered : ∃ i, S i ∧ i ≤ m ∧ m < i + 7
  · obtain ⟨i, hi, hle, hlt⟩ := hcovered
    obtain ⟨r, rfl⟩ := Nat.exists_eq_add_of_le hle
    by_cases hr : r = 3
    · exact .inl ⟨i, hi, by rw [hr]⟩
    · exact .inr ((h.written i hi).alike (by omega) hr)
  · refine .inr (.of_eq (h.kept m fun i hi => ?_).symm)
    by_contra hnot
    exact hcovered ⟨i, hi, by omega, by omega⟩

/-- Operators are written at these places only. -/
theorem of_writtenAt (hk : WrittenAt ts us k) : S k := by
  rcases h.alike_or (k + 3) with ⟨i, hi, heq⟩ | halike
  · rwa [show k = i by omega]
  · have hgap := halike isGap (by simp)
    rw [hk.1.gap₂, hk.slash] at hgap
    cases hgap

/-- The places are those of the written operators. -/
theorem writtenAt : Places ts us (WrittenAt ts us) where
  written _ hi := hi
  apart i j hi hj := h.apart i j (h.of_writtenAt hi) (h.of_writtenAt hj)
  found k hk := by
    obtain ⟨i, hi, hwithin⟩ := h.found k hk
    exact ⟨i, h.written i hi, hwithin⟩
  kept k hk := h.kept k fun i hi => hk i (h.written i hi)

/-- An operator is left exactly if it was there and is not written. -/
theorem operatorAt_iff : OperatorAt us k ↔ OperatorAt ts k ∧ ¬ WrittenAt ts us k := by
  constructor
  · intro hk
    refine ⟨hk.of_alike fun r hr => ?_, fun hwritten => hk.ne_mark (by decide) '/' hwritten.slash⟩
    rcases h.alike_or (k + r) with ⟨i, hi, heq⟩ | halike
    · exact absurd (heq ▸ (h.written i hi).slash) (hk.ne_mark hr '/')
    · exact halike.symm
  · rintro ⟨hk, hnot⟩
    refine hk.of_alike fun r hr => ?_
    rcases h.alike_or (k + r) with ⟨i, hi, heq⟩ | halike
    · -- no slash can stand here: a written operator would have to begin too close to this one
      exfalso
      have hne : i ≠ k := fun heq => hnot (heq ▸ h.written i hi)
      rcases Nat.lt_or_gt_of_ne hne with hlt | hlt
      · have := (h.written i hi).1.apart hk hlt
        omega
      · have := hk.apart (h.written i hi).1 hlt
        omega
    · exact halike

/-- An operator is written unless it begins at the distance or at the right operand of one that
is. -/
theorem writtenAt_or (hk : OperatorAt ts k) :
    WrittenAt ts us k ∨ ∃ i, WrittenAt ts us i ∧ (k = i + 4 ∨ k = i + 6) := by
  obtain ⟨i, hi, hle, hlt⟩ := h.found k hk
  have hwritten := h.written i hi
  rcases Nat.eq_or_lt_of_le hle with rfl | hbefore
  · exact .inl hwritten
  · right
    refine ⟨i, hwritten, ?_⟩
    have := hwritten.1.apart hk hbefore
    omega

/-- Some operator is left if two have tokens in common, and only then. -/
theorem exists_operatorAt_iff : (∃ k, OperatorAt us k) ↔
    ∃ i j, OperatorAt ts i ∧ OperatorAt ts j ∧ i < j ∧ j < i + 7 := by
  constructor
  · rintro ⟨k, hk⟩
    obtain ⟨hk, hnot⟩ := h.operatorAt_iff.1 hk
    obtain ⟨i, hi, heq⟩ := (h.writtenAt_or hk).resolve_left hnot
    exact ⟨i, k, hi.1, hk, by omega, by omega⟩
  · rintro ⟨i, j, hi, hj, hlt, hclose⟩
    by_cases hwritten : WrittenAt ts us i
    · refine ⟨j, h.operatorAt_iff.2 ⟨hj, fun hwritten' => ?_⟩⟩
      have := h.apart i j (h.of_writtenAt hwritten) (h.of_writtenAt hwritten') hlt
      omega
    · exact ⟨i, h.operatorAt_iff.2 ⟨hi, hwritten⟩⟩

end Places

/-! ## Connectives and gaps at the ends -/

/-- Connectives in capitals are like connectives. -/
theorem alike_map_capitalize (ts : List Token) (m : Nat) :
    Alike ts[m]? (ts.map capitalize)[m]? := by
  rw [List.getElem?_map]
  cases ts[m]? with
  | none => exact .of_eq rfl
  | some t =>
    rcases capitalize_cases t with ht | ⟨c, hc, ht, ht'⟩
    · rw [Option.map_some, ht]
      exact .of_eq rfl
    · rw [Option.map_some, ht', ht]
      have hconnectives : ∀ c ∈ connectives, ∀ p ∈ [isWord, isGap, isNearWord, isDistance],
          p (.word (Symbol.ofPlain c.1)) = p (.word (Symbol.ofPlain c.2)) := by decide
      exact hconnectives c hc

theorem operatorAt_map_capitalize_iff : OperatorAt (ts.map capitalize) k ↔ OperatorAt ts k :=
  ⟨fun h => h.of_alike fun _ _ => (alike_map_capitalize ts _).symm,
    fun h => h.of_alike fun _ _ => alike_map_capitalize ts _⟩

/-- Gaps behind are no part of an operator. -/
theorem operatorAt_append_gaps_iff {back : List Token} (hback : ∀ t ∈ back, t.isGap = true) :
    OperatorAt (ts ++ back) k ↔ OperatorAt ts k := by
  have hsame (hlt : k + 6 < ts.length) (r : Nat) (hr : r < 7) : (ts ++ back)[k + r]? = ts[k + r]? :=
    List.getElem?_append_left (by omega)
  constructor
  · intro h
    have hlt : k + 6 < ts.length := by
      by_contra hnot
      obtain ⟨b, hb, -⟩ := exists_word_of_any h.right (fun _ => rfl) fun _ => rfl
      rw [List.getElem?_append_right (Nat.le_of_not_lt hnot)] at hb
      cases hback _ (List.mem_of_getElem? hb)
    exact h.of_alike fun r hr => .of_eq (hsame hlt r hr)
  · intro h
    obtain ⟨b, hb, -⟩ := exists_word_of_any h.right (fun _ => rfl) fun _ => rfl
    have hlt := (List.getElem?_eq_some_iff.1 hb).1
    exact h.of_alike fun r hr => .of_eq (hsame hlt r hr).symm

/-- Gaps at the ends neither make nor end an operator. -/
theorem exists_operatorAt_gaps_iff {front back : List Token}
    (hgaps : ∀ t ∈ front ++ back, t.isGap = true) :
    (∃ k, OperatorAt (front ++ ts ++ back) k) ↔ ∃ k, OperatorAt ts k := by
  have hback : ∀ t ∈ back, t.isGap = true := fun t ht => hgaps t (List.mem_append_right _ ht)
  simp only [operatorAt_append_gaps_iff hback]
  constructor
  · rintro ⟨k, hk⟩
    have hle : front.length ≤ k := by
      by_contra hnot
      obtain ⟨a, ha, -⟩ := exists_word_of_any hk.left (fun _ => rfl) fun _ => rfl
      rw [List.getElem?_append_left (Nat.lt_of_not_le hnot)] at ha
      cases hgaps _ (List.mem_append_left _ (List.mem_of_getElem? ha))
    obtain ⟨k, rfl⟩ := Nat.exists_eq_add_of_le hle
    exact ⟨k, (operatorAt_append_iff front).1 hk⟩
  · rintro ⟨k, hk⟩
    exact ⟨front.length + k, (operatorAt_append_iff front).2 hk⟩

end Token

namespace Request

open Token (OperatorAt WrittenAt)

/-- The proximity operators of search terms are written from left to right, unless they have tokens
in common with one that is written already.  Of terms that do not spell the word that marks slots
there is an expression, but for more phrases than can be numbered.  Its tokens, with the gaps that
trimming took from the ends, are place by place those of the terms, connectives in capitals:

  * no two written operators have tokens in common, every operator begins in one of them, and all
    other tokens are kept;
  * an operator that is not written begins at the distance or at the right operand of one that is;
  * an operator stands in the expression exactly where one stood that is not written;
  * some operator is left exactly if two operators of the terms have tokens in common. -/
theorem proximity_remains_iff {terms : Text} (hfree : Text.occursIn Slot.mark terms = false) :
    (∃ e front back ts us, expression terms = .ok e ∧
      ts = (Token.ofText terms).map Token.capitalize ∧
      us = front ++ Token.ofText e ++ back ∧ (∀ t ∈ front ++ back, t.isGap = true) ∧
      Token.Places ts us (WrittenAt ts us) ∧
      (∀ k, OperatorAt ts k → WrittenAt ts us k ∨
        ∃ i, WrittenAt ts us i ∧ (k = i + 4 ∨ k = i + 6)) ∧
      (∀ k, OperatorAt us k ↔ OperatorAt (Token.ofText terms) k ∧ ¬ WrittenAt ts us k) ∧
      ((∃ k, OperatorAt (Token.ofText e) k) ↔ ∃ i j, OperatorAt (Token.ofText terms) i ∧
        OperatorAt (Token.ofText terms) j ∧ i < j ∧ j < i + 7)) ∨
    (Slot.capacity < (Phrase.texts terms).length ∧
      expression terms = .error (.longNumeral (numeralLimit + 1))) := by
  have hts : Token.WellFormed (Token.ofText terms) := Token.wellFormed_ofSymbols _
  obtain ⟨front, back, hus, hgaps⟩ := Token.exists_gaps_around_trim
    (Token.wellFormed_writeOperators hts) (isReading_expressionSymbols terms)
  obtain ⟨S, hS⟩ := (Token.written_writeProximity
    ((Token.ofText terms).map Token.capitalize)).exists_places
  rw [expression_eq hfree]
  by_cases hle : (Phrase.texts terms).length ≤ Slot.capacity
  · left
    refine ⟨_, front, back, _, Token.writeOperators (Token.ofText terms), if_pos hle, rfl, hus,
      hgaps, hS.writtenAt, fun k hk => hS.writtenAt_or hk, fun k => ?_, ?_⟩
    · exact hS.operatorAt_iff.trans (and_congr_left fun _ => Token.operatorAt_map_capitalize_iff)
    · have hleft := hS.exists_operatorAt_iff
      simp only [Token.operatorAt_map_capitalize_iff] at hleft
      rw [← hleft, ← Token.exists_operatorAt_gaps_iff hgaps]
      exact iff_of_eq (congrArg (fun us => ∃ k, OperatorAt us k) hus.symm)
  · exact .inr ⟨Nat.not_le.1 hle, if_neg hle⟩

/-- Of two operators that share an operand, the second is left. -/
theorem proximity_remains_of_chain :
    Text.occursIn Slot.mark "a near 2 b near 3 c".toList = false ∧
    expression "a near 2 b near 3 c".toList = .ok "a NEAR/2 b near 3 c".toList ∧
    ∃ k, OperatorAt (Token.ofText "a NEAR/2 b near 3 c".toList) k := by
  have hfree : Text.occursIn Slot.mark "a near 2 b near 3 c".toList = false := by decide
  have hexpression :
      expression "a near 2 b near 3 c".toList = .ok "a NEAR/2 b near 3 c".toList := by
    rfl
  refine ⟨hfree, hexpression, ?_⟩
  rcases proximity_remains_iff hfree with ⟨e, _, _, _, _, he, -, -, -, -, -, -, hleft⟩ | ⟨hmany, -⟩
  · cases hexpression.symm.trans he
    refine hleft.2 ⟨0, 6, ?_, ?_, by decide, by decide⟩ <;> constructor <;> decide
  · exact absurd hmany (by decide +kernel)

end Request
end PlainSearch
