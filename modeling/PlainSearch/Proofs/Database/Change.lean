/-
  Proofs/Database/Change.lean --- what every database keeps to.

  WHAT THIS FILE IS FOR.  A database comes about by creating objects, filling tables
  and dropping tables (`Reachable`).  The engine refuses a table with two columns of one
  name and a name with a null character, and the tables that it makes for a
  full-text table have neither.  So

      each change keeps a database sound (`IsSound.create`, `IsSound.insert`,
      `IsSound.drop`), and every database that comes about is sound
      (`Reachable.isSound`).
-/
import PlainSearch.Database.Change
import PlainSearch.Proofs.Database.Relation

set_option autoImplicit false

namespace PlainSearch.Database

/-- The object is one that only the engine makes. -/
def Object.isShadow : Object → Bool
  | .shadow .. => true
  | _ => false

/-- The databases that come about by creating, filling and dropping. -/
inductive Reachable : Database → Prop where
  | empty : Reachable {}
  | create {db db' : Database} {o : Object} : Reachable db → o.isShadow = false →
      db.create o = .ok db' → Reachable db'
  | insert {db db' : Database} {name : Text} {rows : List Row} : Reachable db →
      db.insert name rows = .ok db' → Reachable db'
  | drop {db db' : Database} {name : Text} : Reachable db → db.drop name = .ok db' → Reachable db'

/-! ## Checks -/

theorem differ_of_repeated?_eq_none {names : List Text} (h : repeated? names = none) :
    Differ names := by
  induction names with
  | nil => exact List.nodup_nil
  | cons c cs ih =>
    unfold repeated? at h
    split at h
    · cases h
    · next hfirst =>
      unfold Differ at ih ⊢
      rw [List.map_cons, List.nodup_cons]
      refine ⟨?_, ih h⟩
      rw [← any_eqIgnoringAsciiCase_iff, List.any_eq_true]
      rintro ⟨d, hd, heq⟩
      exact List.find?_eq_none.1 hfirst d hd heq

theorem characters_of_checkCharacters {names : List Text} {u : Unit}
    (h : checkCharacters names = .ok u) : ∀ n ∈ names, '\x00' ∉ n := by
  unfold checkCharacters at h
  split at h
  · cases h
  · next hany =>
    intro n hn hnull
    exact hany (List.any_eq_true.2 ⟨n, hn, List.contains_iff_mem.2 hnull⟩)

theorem differ_of_checkColumns {columns : List Text} {u : Unit}
    (h : checkColumns columns = .ok u) : Differ columns := by
  unfold checkColumns at h
  split at h
  · cases h
  · split at h
    · cases h
    · next hnone => exact differ_of_repeated?_eq_none hnone

theorem differ_of_checkFullTextColumns {name : Text} {columns : List Text} {u : Unit}
    (h : checkFullTextColumns name columns = .ok u) : Differ columns := by
  unfold checkFullTextColumns at h
  split at h
  · cases h
  · next hcolumns =>
    rw [Bool.or_eq_true, not_or] at hcolumns
    have hdiffer := differ_of_repeated?_eq_none (Option.not_isSome_iff_eq_none.1 hcolumns.2)
    unfold Differ at hdiffer ⊢
    rw [List.map_cons, List.nodup_cons] at hdiffer
    exact hdiffer.2

/-- One check after another succeeds if both do. -/
theorem bind_eq_ok_iff {ε α : Type} {x : Except ε Unit} {f : Unit → Except ε α} {a : α} :
    (x >>= f) = .ok a ↔ x = .ok () ∧ f () = .ok a := by
  cases x with
  | error e => simp [bind, Except.bind]
  | ok u => simp [bind, Except.bind]

/-- An object that passes its checks is sound. -/
theorem Object.isSound_of_checkObject {db : Database} {o : Object} {u : Unit}
    (hshadow : o.isShadow = false) (h : checkObject db o = .ok u) : o.IsSound := by
  have hsource : ∀ (name source : Text) (cs : List Text), name :: cs ⊆ name :: source :: cs :=
    fun name source cs => List.cons_subset_cons name (List.subset_cons_self source cs)
  cases o with
  | table name cs rows =>
    simp only [checkObject, bind_eq_ok_iff] at h
    obtain ⟨hcharacters, -, hcolumns, -⟩ := h
    exact ⟨fun _ => differ_of_checkColumns hcolumns, characters_of_checkCharacters hcharacters⟩
  | fullText name cs rows =>
    simp only [checkObject, bind_eq_ok_iff] at h
    obtain ⟨hcharacters, -, -, -, hcolumns, -⟩ := h
    exact ⟨fun _ => differ_of_checkFullTextColumns hcolumns,
      characters_of_checkCharacters hcharacters⟩
  | view name source cs =>
    simp only [checkObject, bind_eq_ok_iff] at h
    exact ⟨nofun, fun n hn => characters_of_checkCharacters h.1 n (hsource _ _ _ hn)⟩
  | index name source cs =>
    simp only [checkObject, bind_eq_ok_iff] at h
    exact ⟨nofun, fun n hn => characters_of_checkCharacters h.1 n (hsource _ _ _ hn)⟩
  | shadow owner kind width => cases hshadow

/-- The tables that the engine makes for a full-text table are sound. -/
theorem Object.isSound_of_mem_shadowsOf {owner : Text} {width : Nat} (howner : '\x00' ∉ owner) :
    ∀ o ∈ Object.shadowsOf owner width, o.IsSound := by
  intro o ho
  obtain ⟨kind, -, rfl⟩ := List.mem_map.1 ho
  have hcolumns := kind.isSound_columns width
  refine ⟨fun _ => hcolumns.1, ?_⟩
  intro n hn
  rcases List.mem_cons.1 hn with rfl | hn
  · have hsuffix : '\x00' ∉ kind.suffix := by
      cases kind <;> decide
    show '\x00' ∉ owner ++ kind.suffix
    rw [List.mem_append, not_or]
    exact ⟨howner, hsuffix⟩
  · exact hcolumns.2 n hn

/-! ## Changes -/

variable {db db' : Database}

/-- Creating an object keeps a database sound. -/
theorem IsSound.create {o : Object} (h : db.IsSound) (hshadow : o.isShadow = false)
    (hcreate : db.create o = .ok db') : db'.IsSound := by
  unfold Database.create at hcreate
  cases hcheck : checkObject db o with
  | error e =>
    rw [hcheck] at hcreate
    cases hcreate
  | ok u =>
    have ho := Object.isSound_of_checkObject hshadow hcheck
    rw [hcheck] at hcreate
    cases hcreate
    intro p hp
    split at hp
    · next name cs rows =>
      rcases List.mem_append.1 hp with hp | hp
      · exact h p hp
      · rcases List.mem_cons.1 hp with rfl | hp
        · exact ho
        · exact Object.isSound_of_mem_shadowsOf (ho.characters name List.mem_cons_self) p hp
    · rcases List.mem_append.1 hp with hp | hp
      · exact h p hp
      · rw [List.mem_singleton.1 hp]
        exact ho

theorem notThere_ne_ok {α : Type} (name written : Text) (act : String) (a : α) :
    notThere name written act ≠ .ok a := by
  intro h
  unfold notThere at h
  split at h
  · cases h
  · split at h <;> cases h

/-- Filling a table leaves every object its name and its columns. -/
theorem exists_columns_of_insert {name : Text} {rows : List Row}
    (hinsert : db.insert name rows = .ok db') :
    ∀ p ∈ db'.objects, ∃ o ∈ db.objects,
      p.isTable = o.isTable ∧ p.name = o.name ∧ p.columns = o.columns := by
  -- rows go into an object of whatever kind that has any
  have hfilled : ∀ {u : Except EngineError Unit} {f : Object → Object},
      (∀ o, (f o).isTable = o.isTable ∧ (f o).name = o.name ∧ (f o).columns = o.columns) →
      (u.map fun _ => (⟨db.objects.map f⟩ : Database)) = .ok db' →
      ∀ p ∈ db'.objects, ∃ o ∈ db.objects,
        p.isTable = o.isTable ∧ p.name = o.name ∧ p.columns = o.columns := by
    intro u f hf hok p hp
    cases u with
    | error e => cases hok
    | ok u =>
      cases hok
      obtain ⟨o, ho, rfl⟩ := List.mem_map.1 hp
      exact ⟨o, ho, hf o⟩
  simp only [Database.insert] at hinsert
  split at hinsert
  · cases hinsert
    intro p hp
    exact ⟨p, hp, rfl, rfl, rfl⟩
  · split at hinsert
    case h_1 | h_2 =>
      refine hfilled (fun o => ?_) hinsert
      split
      · split <;> exact ⟨rfl, rfl, rfl⟩
      · split <;> exact ⟨rfl, rfl, rfl⟩
      · exact ⟨rfl, rfl, rfl⟩
    case h_3 n source cs _ =>
      cases hrelation : db.relation? n with
      | error e =>
        rw [hrelation] at hinsert
        cases hinsert
      | ok r =>
        rw [hrelation] at hinsert
        cases hinsert
    case h_4 => exact absurd hinsert (notThere_ne_ok _ _ _ _)

/-- Filling a table keeps a database sound. -/
theorem IsSound.insert {name : Text} {rows : List Row} (h : db.IsSound)
    (hinsert : db.insert name rows = .ok db') : db'.IsSound := by
  intro p hp
  obtain ⟨o, ho, hkind, hname, hcolumns⟩ := exists_columns_of_insert hinsert p hp
  refine ⟨?_, ?_⟩
  · rw [hkind, hcolumns]
    exact (h o ho).differ
  · rw [hname, hcolumns]
    exact (h o ho).characters

/-- Dropping a table keeps a database sound. -/
theorem IsSound.drop {name : Text} (h : db.IsSound) (hdrop : db.drop name = .ok db') :
    db'.IsSound := by
  unfold Database.drop at hdrop
  split at hdrop
  · cases hdrop
  · cases hdrop
    intro o ho
    exact h o (List.mem_filter.1 ho).1
  · exact absurd hdrop (notThere_ne_ok _ _ _ _)

/-- Every database that comes about is sound. -/
theorem Reachable.isSound (h : Reachable db) : db.IsSound := by
  induction h with
  | empty =>
    intro o ho
    cases ho
  | create _ hshadow hcreate ih => exact ih.create hshadow hcreate
  | insert _ hinsert ih => exact ih.insert hinsert
  | drop _ hdrop ih => exact ih.drop hdrop

theorem reachable_of_foldlM {os : List Object} (hos : ∀ o ∈ os, o.isShadow = false)
    (hdb : Reachable db) (h : os.foldlM create db = .ok db') : Reachable db' := by
  induction os generalizing db with
  | nil =>
    cases h
    exact hdb
  | cons o os ih =>
    rw [List.foldlM_cons] at h
    cases hcreate : db.create o with
    | error e =>
      rw [hcreate] at h
      cases h
    | ok next =>
      rw [hcreate] at h
      apply ih (fun p hp => hos p (List.mem_cons_of_mem o hp)) ?_ h
      exact hdb.create (hos o List.mem_cons_self) hcreate

/-- A database that is made of objects comes about. -/
theorem reachable_of_ofObjects {os : List Object} (h : ofObjects os = .ok db)
    (hos : ∀ o ∈ os, o.isShadow = false) : Reachable db :=
  reachable_of_foldlM hos .empty h

end PlainSearch.Database
