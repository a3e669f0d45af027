/-
  Proofs/Json/Document.lean --- what a document tells of the value it is of.

  WHAT THIS FILE IS FOR.  A document is read back as the value it was written for, with
  two exceptions.  Bytes, which documents lack, are told as their quoted text.  And a
  double that is no finite number is written as a word that no reader of documents
  accepts, so that nothing at all can be read back (`told?`):

      read? (document v)  =  told? v                         (`read?_document`).

  The induction follows the value, at every depth, in front of every text that does not go
  on with a number, and with at least as much fuel as the value has characters.
-/
import PlainSearch.Proofs.Json.Number
import PlainSearch.Proofs.Json.String

set_option autoImplicit false

namespace PlainSearch.Json

open Text (isAsciiDigit)

/-! ## What a document tells -/

/-- The double is a number, and no infinity. -/
def isFinite : Double → Bool
  | .finite _ _ _ => true
  | _ => false

mutual

/-- What the document of a value tells of it: the value, with the quoted text of bytes in their
place, and nothing if there is an infinity or a not-a-number in it. -/
def told? : Datum → Option Datum
  | .null => some .null
  | .bool b => some (.bool b)
  | .int n => some (.int n)
  | .real x => if isFinite x then some (.real x) else none
  | .text t => some (.text t)
  | .bytes bs => some (.text (Text.quotedBytes bs))
  | .list xs => (toldItems? xs).map .list
  | .record fs => (toldFields? fs).map .record

/-- What is told of the items of a list. -/
def toldItems? : List Datum → Option (List Datum)
  | [] => some []
  | x :: xs => (told? x).bind fun v => (toldItems? xs).map (v :: ·)

/-- What is told of the fields of a record. -/
def toldFields? : List (Text × Datum) → Option Fields
  | [] => some []
  | (k, x) :: fs => (told? x).bind fun v => (toldFields? fs).map ((k, v) :: ·)

end

/-! ## Where a value begins -/

/-- The text begins as a value does, with neither a gap nor a closing bracket. -/
def OpensValue (t : Text) : Prop :=
  ∃ c u, t = c :: u ∧ isGap c = false ∧ c ≠ ']' ∧ c ≠ '}'

theorem opensValue_of_startsWithDigit {t : Text} (h : StartsWithDigit t) : OpensValue t := by
  obtain ⟨c, u, ht, hc⟩ := h
  refine ⟨c, u, ht, ?_, ?_, ?_⟩
  · by_contra hgap
    simp only [isGap, Bool.not_eq_false, Bool.or_eq_true, decide_eq_true_eq] at hgap
    rcases hgap with ((rfl | rfl) | rfl) | rfl <;> exact absurd hc (by decide)
  · rintro rfl
    exact absurd hc (by decide)
  · rintro rfl
    exact absurd hc (by decide)

theorem opensValue_render (depth : Nat) (v : Datum) : OpensValue (render depth v) := by
  cases v with
  | null => exact ⟨'n', _, rfl, by decide, by decide, by decide⟩
  | bool b => cases b <;> exact ⟨_, _, rfl, by decide, by decide, by decide⟩
  | int n =>
    cases n with
    | ofNat n =>
      have hdigit := startsWithDigit_append (Text.ofNat_ne_nil n)
        (fun c => Text.isAsciiDigit_of_mem_ofNat) []
      rw [List.append_nil] at hdigit
      exact opensValue_of_startsWithDigit hdigit
    | negSucc n => exact ⟨'-', _, rfl, by decide, by decide, by decide⟩
  | real x =>
    cases x with
    | nan => exact ⟨'N', _, rfl, by decide, by decide, by decide⟩
    | infinite negative => cases negative <;> exact ⟨_, _, rfl, by decide, by decide, by decide⟩
    | finite negative e f =>
      cases negative with
      | true => exact ⟨'-', _, rfl, by decide, by decide, by decide⟩
      | false => exact opensValue_of_startsWithDigit (startsWithDigit_decimalText _)
  | text t => exact ⟨'"', _, rfl, by decide, by decide, by decide⟩
  | bytes bs => exact ⟨'"', _, rfl, by decide, by decide, by decide⟩
  | list xs =>
    cases xs with
    | nil => exact ⟨'[', _, by rw [render], by decide, by decide, by decide⟩
    | cons x xs =>
      exact ⟨'[', _, by rw [render, List.cons_append, List.cons_append], by decide, by decide,
        by decide⟩
  | record fs =>
    cases fs with
    | nil => exact ⟨'{', _, by rw [render], by decide, by decide, by decide⟩
    | cons f fs =>
      exact ⟨'{', _, by rw [render, List.cons_append, List.cons_append], by decide, by decide,
        by decide⟩

theorem OpensValue.append {t : Text} (h : OpensValue t) (r : Text) : OpensValue (t ++ r) := by
  obtain ⟨c, u, rfl, hc⟩ := h
  exact ⟨c, u ++ r, rfl, hc⟩

theorem skip_newline (depth : Nat) (t : Text) : skip (newline depth ++ t) = skip t := by
  have hgap : ∀ c ∈ newline depth, isGap c = true := by
    intro c hc
    rcases List.mem_cons.1 hc with rfl | hc
    · decide
    · rw [List.eq_of_mem_replicate hc]
      decide
  exact List.dropWhile_append_of_pos hgap

theorem OpensValue.skip_eq {t : Text} (h : OpensValue t) : skip t = t := by
  obtain ⟨c, u, rfl, hc, -⟩ := h
  exact skip_cons u hc

theorem endsNumber_newline (depth : Nat) (r : Text) : EndsNumber (newline depth ++ r) :=
  endsNumber_cons (.inr rfl) _

/-! ## Values without parts -/

section

variable {fuel : Nat} {r : Text}

theorem readValue?_number {t : Text} {c : Char} (h : c = '-' ∨ isAsciiDigit c = true) :
    readValue? (fuel + 1) (c :: t) = readNumber? (c :: t) := by
  have hother : c ≠ '"' ∧ c ≠ '[' ∧ c ≠ '{' := by
    refine ⟨?_, ?_, ?_⟩ <;> rintro rfl <;> exact absurd h (by decide)
  rw [readValue?, if_neg hother.1, if_neg hother.2.1, if_neg hother.2.2, if_pos h]

theorem readValue?_ofInt (n : ℤ) (hr : EndsNumber r) :
    readValue? (fuel + 1) (Text.ofInt n ++ r) = some (.int n, r) := by
  have hread := readNumber?_ofInt n hr
  cases n with
  | ofNat n =>
    obtain ⟨c, u, hcons, hc⟩ := startsWithDigit_append (Text.ofNat_ne_nil n)
      (fun c => Text.isAsciiDigit_of_mem_ofNat) r
    change readNumber? (Text.ofNat n ++ r) = _ at hread
    change readValue? (fuel + 1) (Text.ofNat n ++ r) = _
    rw [hcons] at hread ⊢
    rw [readValue?_number (.inr hc), hread]
  | negSucc n => exact (readValue?_number (.inl rfl)).trans hread

/-- A double is read back if it is finite; otherwise nothing is read. -/
theorem readValue?_real (x : Double) (hr : EndsNumber r) :
    readValue? (fuel + 1) (x.toTextWith spelling ++ r) = (told? (.real x)).map (·, r) := by
  cases x with
  | nan => rfl
  | infinite negative => cases negative <;> rfl
  | finite negative e f =>
    have hread := readNumber?_finite negative e f hr
    cases negative with
    | true => exact (readValue?_number (.inl rfl)).trans hread
    | false =>
      obtain ⟨c, u, hcons, hc⟩ := startsWithDigit_decimalText (Double.shortest false e f)
      change readNumber? (Double.decimalText (Double.shortest false e f) ++ r) = _ at hread
      change readValue? (fuel + 1) (Double.decimalText (Double.shortest false e f) ++ r) = _
      rw [hcons, List.cons_append] at hread ⊢
      rw [readValue?_number (.inr hc), hread]
      rfl

theorem length_le_length_flatMap_escapeChar (t : Text) :
    t.length ≤ (t.flatMap escapeChar).length := by
  induction t with
  | nil => exact Nat.le_refl 0
  | cons c t ih =>
    have hchar : 0 < (escapeChar c).length := by
      rcases escapeChar_cases c with ⟨h, -⟩ | ⟨e, h, -⟩ <;> rw [h] <;> exact Nat.succ_pos _
    rw [List.length_cons, List.flatMap_cons, List.length_append]
    omega

theorem readChars?_string {t : Text} (hfuel : (string t).length ≤ fuel + 1) :
    readChars? fuel (t.flatMap escapeChar ++ '"' :: r) = some (t, r) := by
  apply readChars?_flatMap_escapeChar
  have hlength := length_le_length_flatMap_escapeChar t
  simp only [string, List.length_append, List.length_cons, List.length_nil] at hfuel
  omega

theorem string_append (t r : Text) :
    string t ++ r = '"' :: (t.flatMap escapeChar ++ '"' :: r) := by
  simp only [string, List.cons_append, List.append_assoc, List.nil_append]

theorem readValue?_string {t : Text} (hfuel : (string t).length ≤ fuel + 1) :
    readValue? (fuel + 1) (string t ++ r) = some (.text t, r) := by
  rw [string_append, readValue?, if_pos rfl, readChars?_string hfuel]
  rfl

theorem readString?_string {t : Text} (hfuel : (string t).length ≤ fuel + 1) :
    readString? fuel (string t ++ r) = some (t, r) := by
  rw [string_append]
  exact readChars?_string hfuel

/-! ## Values with parts -/

/-- The items of a list behind one of them. -/
def moreItems (depth : Nat) : List Datum → Text
  | [] => []
  | x :: xs => ',' :: renderItems depth (x :: xs)

theorem renderItems_cons (depth : Nat) (x : Datum) (xs : List Datum) :
    renderItems depth (x :: xs) = newline depth ++ (render depth x ++ moreItems depth xs) := by
  cases xs with
  | nil => simp only [renderItems, moreItems, List.append_nil]
  | cons y ys =>
    simp only [renderItems, moreItems, List.append_assoc, List.cons_append, List.nil_append]

variable {depth depth' : Nat} {x : Datum}

/-- One item is read, and then the others. -/
theorem readItems?_step {xs : List Datum}
    (hvalue : ∀ r', EndsNumber r' →
      readValue? fuel (render depth x ++ r') = (told? x).map (·, r'))
    (hmore : xs ≠ [] → readItems? fuel (renderItems depth xs ++ (newline depth' ++ ']' :: r))
      = (toldItems? xs).map (·, r)) :
    readItems? (fuel + 1) (renderItems depth (x :: xs) ++ (newline depth' ++ ']' :: r))
      = (toldItems? (x :: xs)).map (·, r) := by
  have hend : EndsNumber (moreItems depth xs ++ (newline depth' ++ ']' :: r)) := by
    cases xs with
    | nil => exact endsNumber_newline depth' _
    | cons y ys => exact endsNumber_cons (.inl rfl) _
  rw [renderItems_cons, List.append_assoc, List.append_assoc, readItems?, skip_newline,
    ((opensValue_render depth x).append _).skip_eq, hvalue _ hend, toldItems?]
  cases told? x with
  | none => rfl
  | some v =>
    cases xs with
    | nil =>
      have hskip : skip (moreItems depth [] ++ (newline depth' ++ ']' :: r)) = ']' :: r := by
        rw [moreItems, List.nil_append, skip_newline, skip_cons r (by decide)]
      simp only [Option.map_some, hskip]
      rfl
    | cons y ys =>
      have hskip : skip (moreItems depth (y :: ys) ++ (newline depth' ++ ']' :: r))
          = ',' :: (renderItems depth (y :: ys) ++ (newline depth' ++ ']' :: r)) :=
        skip_cons _ (by decide)
      simp only [Option.map_some, hskip, hmore (List.cons_ne_nil y ys), Option.bind_some]
      cases toldItems? (y :: ys) <;> rfl

/-- One field is read, and then the others. -/
theorem readFields?_step {k : Text} {fs : Fields} (hfuel : (string k).length ≤ fuel + 1)
    (hvalue : ∀ r', EndsNumber r' →
      readValue? fuel (render depth x ++ r') = (told? x).map (·, r'))
    (hmore : fs ≠ [] → readFields? fuel (renderFields depth fs ++ (newline depth' ++ '}' :: r))
      = (toldFields? fs).map (·, r)) :
    readFields? (fuel + 1) (renderFields depth ((k, x) :: fs) ++ (newline depth' ++ '}' :: r))
      = (toldFields? ((k, x) :: fs)).map (·, r) := by
  have hend : EndsNumber (moreFields depth fs ++ (newline depth' ++ '}' :: r)) := by
    cases fs with
    | nil => exact endsNumber_newline depth' _
    | cons f fs => exact endsNumber_cons (.inl rfl) _
  have hname : ∀ t, skip (string k ++ t) = string k ++ t := fun t => by
    rw [string_append]
    exact skip_cons _ (by decide)
  have hcolon : ∀ t, (after? ':' (skip (':' :: ' ' :: (render depth x ++ t)))).bind
      (fun u => readValue? fuel (skip u)) = readValue? fuel (render depth x ++ t) := fun t => by
    rw [skip_cons _ (by decide), after?, if_pos rfl, Option.bind_some]
    exact congrArg _ ((opensValue_render depth x).append t).skip_eq
  rw [renderFields_cons]
  simp only [List.append_assoc, List.cons_append, List.nil_append]
  rw [readFields?, skip_newline, hname, readString?_string hfuel]
  simp only [hcolon, hvalue _ hend, toldFields?]
  cases told? x with
  | none => rfl
  | some v =>
    cases fs with
    | nil =>
      have hskip : skip (moreFields depth [] ++ (newline depth' ++ '}' :: r)) = '}' :: r := by
        rw [moreFields, List.nil_append, skip_newline, skip_cons r (by decide)]
      simp only [Option.map_some, hskip]
      rfl
    | cons f fs =>
      have hskip : skip (moreFields depth (f :: fs) ++ (newline depth' ++ '}' :: r))
          = ',' :: (renderFields depth (f :: fs) ++ (newline depth' ++ '}' :: r)) :=
        skip_cons _ (by decide)
      simp only [Option.map_some, hskip, hmore (List.cons_ne_nil f fs), Option.bind_some]
      cases toldFields? (f :: fs) <;> rfl

theorem readValue?_list {xs : List Datum} (hne : xs ≠ [])
    (hitems : readItems? fuel (renderItems (depth + 1) xs ++ (newline depth ++ ']' :: r))
      = (toldItems? xs).map (·, r)) :
    readValue? (fuel + 1) (render depth (.list xs) ++ r) = (told? (.list xs)).map (·, r) := by
  obtain ⟨x, xs, rfl⟩ := List.exists_cons_of_ne_nil hne
  have hopen : after? ']' (skip (renderItems (depth + 1) (x :: xs) ++ (newline depth ++ ']' :: r)))
      = none := by
    obtain ⟨c, u, hcons, hgap, hclose, -⟩ := opensValue_render (depth + 1) x
    rw [renderItems_cons, List.append_assoc, skip_newline, hcons, List.append_assoc,
      List.cons_append, skip_cons _ hgap, after?, if_neg hclose]
  have htext : render depth (.list (x :: xs)) ++ r
      = '[' :: (renderItems (depth + 1) (x :: xs) ++ (newline depth ++ ']' :: r)) := by
    simp only [render, List.cons_append, List.append_assoc, List.nil_append]
  rw [htext, readValue?, if_neg (by decide), if_pos rfl, hopen, told?]
  simp only [hitems]
  cases toldItems? (x :: xs) <;> rfl

theorem readValue?_record {fs : Fields} (hne : fs ≠ [])
    (hfields : readFields? fuel (renderFields (depth + 1) fs ++ (newline depth ++ '}' :: r))
      = (toldFields? fs).map (·, r)) :
    readValue? (fuel + 1) (render depth (.record fs) ++ r) = (told? (.record fs)).map (·, r) := by
  obtain ⟨⟨k, x⟩, fs, rfl⟩ := List.exists_cons_of_ne_nil hne
  have hopen : after? '}' (skip (renderFields (depth + 1) ((k, x) :: fs)
      ++ (newline depth ++ '}' :: r))) = none := by
    rw [renderFields_cons, List.append_assoc, skip_newline, List.append_assoc, string_append,
      skip_cons _ (by decide), after?, if_neg (by decide)]
  have htext : render depth (.record ((k, x) :: fs)) ++ r
      = '{' :: (renderFields (depth + 1) ((k, x) :: fs) ++ (newline depth ++ '}' :: r)) := by
    simp only [render, List.cons_append, List.append_assoc, List.nil_append]
  rw [htext, readValue?, if_neg (by decide), if_neg (by decide), if_pos rfl, hopen, told?]
  simp only [hfields]
  cases toldFields? ((k, x) :: fs) <;> rfl

end

/-! ## Every value -/

mutual

/-- A value is read back as what its document tells. -/
theorem readValue?_render (v : Datum) (depth fuel : Nat) (r : Text) (hr : EndsNumber r)
    (hfuel : (render depth v).length ≤ fuel) :
    readValue? (fuel + 1) (render depth v ++ r) = (told? v).map (·, r) := by
  match v with
  | .null => rfl
  | .bool b => cases b <;> rfl
  | .int n => exact readValue?_ofInt n hr
  | .real x => exact readValue?_real x hr
  | .text t => exact readValue?_string (Nat.le_succ_of_le hfuel)
  | .bytes bs => exact readValue?_string (Nat.le_succ_of_le hfuel)
  | .list [] => rfl
  | .list (x :: xs) =>
    apply readValue?_list (List.cons_ne_nil x xs)
    apply readItems?_render (x :: xs) (List.cons_ne_nil x xs)
    simp only [render, List.length_cons, List.length_append] at hfuel
    omega
  | .record [] => rfl
  | .record (f :: fs) =>
    apply readValue?_record (List.cons_ne_nil f fs)
    apply readFields?_render (f :: fs) (List.cons_ne_nil f fs)
    simp only [render, List.length_cons, List.length_append] at hfuel
    omega

theorem readItems?_render (xs : List Datum) (hne : xs ≠ []) (depth depth' fuel : Nat) (r : Text)
    (hfuel : (renderItems (depth + 1) xs).length ≤ fuel) :
    readItems? fuel (renderItems (depth + 1) xs ++ (newline depth' ++ ']' :: r))
      = (toldItems? xs).map (·, r) := by
  match xs with
  | [] => exact absurd rfl hne
  | x :: xs =>
    rw [renderItems_cons] at hfuel
    simp only [newline, List.length_append, List.length_cons, List.length_replicate] at hfuel
    obtain ⟨fuel, rfl⟩ := Nat.exists_eq_add_of_le' (show 2 ≤ fuel by omega)
    apply readItems?_step
    · intro r' hr'
      exact readValue?_render x (depth + 1) fuel r' hr' (by omega)
    · intro hmore
      obtain ⟨y, ys, rfl⟩ := List.exists_cons_of_ne_nil hmore
      apply readItems?_render (y :: ys) hmore
      simp only [moreItems, List.length_cons] at hfuel
      omega

theorem readFields?_render (fs : Fields) (hne : fs ≠ []) (depth depth' fuel : Nat) (r : Text)
    (hfuel : (renderFields (depth + 1) fs).length ≤ fuel) :
    readFields? fuel (renderFields (depth + 1) fs ++ (newline depth' ++ '}' :: r))
      = (toldFields? fs).map (·, r) := by
  match fs with
  | [] => exact absurd rfl hne
  | (k, x) :: fs =>
    rw [renderFields_cons] at hfuel
    simp only [newline, List.length_append, List.length_cons, List.length_replicate] at hfuel
    obtain ⟨fuel, rfl⟩ := Nat.exists_eq_add_of_le' (show 2 ≤ fuel by omega)
    apply readFields?_step
    · omega
    · intro r' hr'
      exact readValue?_render x (depth + 1) fuel r' hr' (by omega)
    · intro hmore
      obtain ⟨f, fs, rfl⟩ := List.exists_cons_of_ne_nil hmore
      apply readFields?_render (f :: fs) hmore
      simp only [moreFields, List.length_cons] at hfuel
      omega

end

/-- A document is read back as what it tells of its value, whatever gaps stand behind it. -/
theorem read?_document (v : Datum) {g : Text} (hg : ∀ c ∈ g, isGap c = true) :
    read? (document v ++ g) = told? v := by
  have hend : EndsNumber g := by
    intro c hc
    have hgap := hg c (List.mem_of_mem_head? hc)
    simp only [isGap, Bool.or_eq_true, decide_eq_true_eq] at hgap
    rcases hgap with ((rfl | rfl) | rfl) | rfl <;> decide
  have hread : readValue? ((document v ++ g).length + 1) (document v ++ g)
      = (told? v).map (·, g) := by
    apply readValue?_render v 0 _ g hend
    rw [List.length_append]
    exact Nat.le_add_right _ _
  have hskip : skip (document v ++ g) = document v ++ g :=
    ((opensValue_render 0 v).append g).skip_eq
  have hrest : skip g = [] := List.dropWhile_eq_nil_iff.2 hg
  rw [read?, hskip, hread]
  cases told? v with
  | none => rfl
  | some w => simp only [Option.map_some, hrest, if_true]

/-! ## Records of cells -/

/-- What is told of a value that has no parts and is no infinity. -/
def toldCell : Datum → Datum
  | .bytes bs => .text (Text.quotedBytes bs)
  | v => v

theorem toldItems?_map_eq_some {α : Type} {f g : α → Datum} {xs : List α}
    (h : ∀ a ∈ xs, told? (f a) = some (g a)) : toldItems? (xs.map f) = some (xs.map g) := by
  induction xs with
  | nil => rfl
  | cons a xs ih =>
    rw [List.map_cons, toldItems?, h a List.mem_cons_self,
      ih fun b hb => h b (List.mem_cons_of_mem a hb)]
    rfl

theorem toldItems?_eq_none {xs : List Datum} {x : Datum} (hx : x ∈ xs) (h : told? x = none) :
    toldItems? xs = none := by
  induction xs with
  | nil => cases hx
  | cons y ys ih =>
    rw [toldItems?]
    rcases List.mem_cons.1 hx with rfl | hx
    · rw [h]
      rfl
    · rw [ih hx]
      cases told? y <;> rfl

theorem toldFields?_eq_some {g : Datum → Datum} {fs : Fields}
    (h : ∀ f ∈ fs, told? f.2 = some (g f.2)) :
    toldFields? fs = some (fs.map fun f => (f.1, g f.2)) := by
  induction fs with
  | nil => rfl
  | cons f fs ih =>
    rw [toldFields?, h f List.mem_cons_self, ih fun f' hf' => h f' (List.mem_cons_of_mem f hf')]
    rfl

theorem toldFields?_eq_none {fs : Fields} {f : Text × Datum} (hf : f ∈ fs)
    (h : told? f.2 = none) : toldFields? fs = none := by
  induction fs with
  | nil => cases hf
  | cons f' fs ih =>
    rw [toldFields?]
    rcases List.mem_cons.1 hf with rfl | hf
    · rw [h]
      rfl
    · rw [ih hf]
      cases told? f'.2 <;> rfl

end PlainSearch.Json
