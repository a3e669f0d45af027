/-
  Proofs/Location/Connection.lean --- the engine that a connection leaves behind.

  WHAT THIS FILE IS FOR.  A connection is asked for its engine, tried out, closed, or tried
  out, used further and closed again (`Connection.within`).  Whatever came of such uses, and
  in whatever order they came, a connection has come to one of two states (`Stands`):

      closed     it holds no engine, and none that was made for it is left;

      holding    it holds the engine of its URL, of a dialect that can be searched, and
                 no other engine is left.

  For each operation one lemma says all that it can do to a connection in either state
  (`Stands.engine_cases` and its like).  That uses lead from state to state follows by
  induction on them, those inside a use that closes the connection included
  (`stands_applyAll`).

  Nothing is assumed of the library that makes the engines, but that it makes of a URL what
  it made of it before.

  THE RESULT.  A connection that is tried out, used and closed again is closed afterwards,
  unless its URL has an engine that finds nothing to open.  Then the trial fails with the
  engine already made, the closing is never come to, and the engine stays behind
  (`engine_left_behind_iff`).
-/
import PlainSearch.Installed
import PlainSearch.Proofs.Location.Engine

set_option autoImplicit false

namespace PlainSearch

/-- What an engine finds lets a trial of it succeed. -/
def Contents.IsOpened : Contents → Prop
  | .database _ => True
  | .foreign => True
  | .refused _ => False
  | .impossible _ => False

namespace Connection

/-! ## States -/

/-- The engine that is made for a URL, and which is of a dialect that can be searched. -/
structure Serves (make : Maker) (e : Location.Engine) (url : Text) : Prop where
  made : make url = .ok e
  searchable : e.dialect = .sqlite

/-- A connection that holds no engine, and for which none is left. -/
def closed (url : Text) : Connection := { url := url }

/-- A connection that holds an engine, and for which no other is left. -/
def holding (url : Text) (e : Location.Engine) : Connection :=
  { url := url, held := some e, live := 1 }

/-- What a connection for a URL may have come to. -/
inductive Stands (make : Maker) (url : Text) : Connection → Prop
  | atRest : Stands make url (closed url)
  | inUse {e : Location.Engine} (h : Serves make e url) : Stands make url (holding url e)

variable {make : Maker} {url : Text} {c : Connection} {e : Location.Engine}

theorem Serves.unique {e' : Location.Engine} (h : Serves make e url) (h' : Serves make e' url) : e = e' :=
  Except.ok.inj (h.made.symm.trans h'.made)

/-- The URL of a file has an engine, for every name that is written as it is. -/
theorem serves_fileUrl (name : Text) (hplain : '%' ∉ name) (hquery : '?' ∉ name)
    (hnull : '\x00' ∉ name) :
    Serves Location.Engine.ofUrl ⟨.sqlite, .target (.named name true)⟩
      (Location.fileUrl "sqlite".toList name) :=
  ⟨Location.Engine.ofUrl_fileUrl .dialect hplain hquery hnull, rfl⟩

namespace Stands

theorem url_eq (h : Stands make url c) : c.url = url := by
  cases h <;> rfl

/-- As many engines are left as are held. -/
theorem live_eq (h : Stands make url c) : c.live = if c.held.isSome then 1 else 0 := by
  cases h <;> rfl

theorem serves (h : Stands make url c) (he : c.held = some e) : Serves make e url := by
  cases h with
  | atRest => cases he
  | inUse h =>
    cases he
    exact h

theorem eq_closed (h : Stands make url c) (hnone : ∀ e, ¬ Serves make e url) : c = closed url := by
  cases h with
  | atRest => rfl
  | inUse h => exact absurd h (hnone _)

end Stands

/-! ## Operations -/

/-- A connection is asked for its engine: it then holds it, or it has none and is as it was. -/
theorem Stands.engine_cases (h : Stands make url c) :
    (∃ e, Serves make e url ∧ c.engine make = (.ok e, holding url e)) ∨
      (∀ e, ¬ Serves make e url) ∧ ∃ f, c.engine make = (.error f, c) := by
  cases h with
  | inUse h => exact .inl ⟨_, h, rfl⟩
  | atRest =>
    unfold Connection.engine closed
    cases hmade : make url with
    | error f =>
      refine .inr ⟨fun e he => ?_, engineError f, rfl⟩
      cases hmade.symm.trans he.made
    | ok e =>
      -- an engine of another dialect is made and disposed of again
      have hother (hdialect : e.dialect ≠ .sqlite) (e' : Location.Engine) : ¬ Serves make e' url := by
        intro he'
        cases hmade.symm.trans he'.made
        exact hdialect he'.searchable
      cases hdialect : e.dialect with
      | sqlite => exact .inl ⟨e, ⟨hmade, hdialect⟩, by simp only [hdialect]; rfl⟩
      | _ =>
        exact .inr ⟨hother (by rw [hdialect]; nofun), dialectError e.dialect url,
          by simp only [hdialect]⟩

/-- A connection is tried out: it then holds its engine, whatever this finds, or it has none and is
as it was. -/
theorem Stands.test_cases (h : Stands make url c) (reach : Reach) :
    (∃ e, Serves make e url ∧ (reach e).IsOpened ∧ c.test make reach = (.ok (), holding url e)) ∨
      (∃ e reason, Serves make e url ∧ ¬ (reach e).IsOpened ∧
        c.test make reach = (.error (testError reason), holding url e)) ∨
      (∀ e, ¬ Serves make e url) ∧ ∃ f, c.test make reach = (.error f, c) := by
  unfold Connection.test
  rcases h.engine_cases with ⟨e, he, heq⟩ | ⟨hnone, f, heq⟩
  · rw [heq]
    cases hfound : reach e with
    | database db => exact .inl ⟨e, he, by rw [hfound]; trivial, by simp only [hfound]⟩
    | foreign => exact .inl ⟨e, he, by rw [hfound]; trivial, by simp only [hfound]⟩
    | refused r =>
      exact .inr (.inl ⟨e, _, he, by rw [hfound]; exact id, by simp only [hfound]; rfl⟩)
    | impossible f =>
      exact .inr (.inl ⟨e, _, he, by rw [hfound]; exact id, by simp only [hfound]; rfl⟩)
  · rw [heq]
    exact .inr (.inr ⟨hnone, f, rfl⟩)

theorem Stands.close_eq (h : Stands make url c) : c.close = closed url := by
  cases h <;> rfl

/-- A connection is tried out, used and closed again: the use is only come to if the trial succeeds,
and so is the closing. -/
theorem Stands.within_cases {α : Type} (h : Stands make url c) (reach : Reach) (body : Action α) :
    (∃ e, Serves make e url ∧ (reach e).IsOpened ∧
        c.within make reach body = ((body (holding url e)).1, (body (holding url e)).2.close)) ∨
      (∃ e reason, Serves make e url ∧ ¬ (reach e).IsOpened ∧
        c.within make reach body = (.error (testError reason), holding url e)) ∨
      (∀ e, ¬ Serves make e url) ∧ ∃ f, c.within make reach body = (.error f, c) := by
  unfold Connection.within
  rcases h.test_cases reach with
    ⟨e, he, hopened, heq⟩ | ⟨e, reason, he, hopened, heq⟩ | ⟨hnone, f, heq⟩
  · exact .inl ⟨e, he, hopened, by rw [heq]⟩
  · exact .inr (.inl ⟨e, reason, he, hopened, by rw [heq]⟩)
  · exact .inr (.inr ⟨hnone, f, by rw [heq]⟩)

namespace Stands

theorem engine (h : Stands make url c) : Stands make url (c.engine make).2 := by
  rcases h.engine_cases with ⟨e, he, heq⟩ | ⟨-, f, heq⟩
  · rw [heq]
    exact .inUse he
  · rwa [heq]

theorem test (h : Stands make url c) (reach : Reach) : Stands make url (c.test make reach).2 := by
  rcases h.test_cases reach with ⟨e, he, -, heq⟩ | ⟨e, reason, he, -, heq⟩ | ⟨-, f, heq⟩
  · rw [heq]
    exact .inUse he
  · rw [heq]
    exact .inUse he
  · rwa [heq]

theorem close (h : Stands make url c) : Stands make url c.close := by
  rw [h.close_eq]
  exact .atRest

theorem within {α : Type} {body : Action α} (h : Stands make url c) (reach : Reach)
    (hbody : ∀ d, Stands make url d → Stands make url (body d).2) : Stands make url (c.within make reach body).2 := by
  rcases h.within_cases reach body with
    ⟨e, he, -, heq⟩ | ⟨e, reason, he, -, heq⟩ | ⟨-, f, heq⟩
  · rw [heq]
    exact (hbody _ (.inUse he)).close
  · rw [heq]
    exact .inUse he
  · rwa [heq]

end Stands

/-! ## Uses -/

/-- A use of a connection.  What engines find may change from one use to the next. -/
inductive Use where
  | engine
  | test (reach : Reach)
  | close
  /-- it is tried out, used further and closed -/
  | within (reach : Reach) (body : List Use)

mutual

/-- A connection after a use, whatever the result of that. -/
def Use.apply (make : Maker) : Use → Connection → Connection
  | .engine, c => (c.engine make).2
  | .test reach, c => (c.test make reach).2
  | .close, c => c.close
  | .within reach body, c => (c.within make reach fun d => (.ok (), Use.applyAll make body d)).2

/-- A connection after uses of it, one after the other. -/
def Use.applyAll (make : Maker) : List Use → Connection → Connection
  | [], c => c
  | u :: us, c => Use.applyAll make us (u.apply make c)

end

mutual

/-- A use leads from state to state. -/
theorem stands_apply : ∀ (u : Use) {c : Connection}, Stands make url c → Stands make url (u.apply make c)
  | .engine, _, h => h.engine
  | .test reach, _, h => h.test reach
  | .close, _, h => h.close
  | .within reach body, _, h => h.within reach fun _ hd => stands_applyAll body hd

/-- Uses lead from state to state. -/
theorem stands_applyAll :
    ∀ (us : List Use) {c : Connection}, Stands make url c → Stands make url (Use.applyAll make us c)
  | [], _, h => h
  | u :: us, _, h => stands_applyAll us (stands_apply u h)

end

/-- What is done with a connection comes down to uses of it, which may depend on what it is.
Whether it succeeds is left open. -/
def UsesOnly {α : Type} (make : Maker) (body : Action α) : Prop :=
  ∀ d, ∃ us, (body d).2 = Use.applyAll make us d

theorem UsesOnly.stands {α : Type} {body : Action α} (hbody : UsesOnly make body) (h : Stands make url c) :
    Stands make url (body c).2 := by
  obtain ⟨us, hus⟩ := hbody c
  rw [hus]
  exact stands_applyAll us h

/-- Whatever a connection was used for, it holds an engine that can be searched or none, every
other engine has been disposed of, and an engine that cannot be made leaves it as it is.  When it
is tried out, used and closed again, whatever came of the use, it then holds no engine and none is
left, unless there is an engine for its URL that finds nothing to open; and then that engine
is left, held, and the failed trial is told. -/
theorem engine_left_behind_iff (make : Maker) (url : Text) (uses : List Use) :
    let c := Use.applyAll make uses { url := url }
    (∀ e, c.held = some e → e.dialect = .sqlite) ∧
    c.live = (if c.held.isSome then 1 else 0) ∧
    (∀ f, (c.engine make).1 = .error f → (c.engine make).2 = c) ∧
    ∀ (α : Type) (reach : Reach) (body : Action α), UsesOnly make body →
      let x := c.within make reach body
      (x.2.held = none ∧ x.2.live = 0 ↔ ¬ ∃ e, Serves make e url ∧ ¬ (reach e).IsOpened) ∧
      ∀ e, Serves make e url → ¬ (reach e).IsOpened →
        x.2.held = some e ∧ x.2.live = 1 ∧ ∃ reason, x.1 = .error (testError reason) := by
  intro c
  have hc : Stands make url c := stands_applyAll uses .atRest
  refine ⟨fun e he => (hc.serves he).searchable, hc.live_eq, fun f hf => ?_, ?_⟩
  · rcases hc.engine_cases with ⟨e, he, heq⟩ | ⟨-, g, heq⟩
    · rw [heq] at hf
      cases hf
    · rw [heq]
  · intro α reach body hbody x
    rcases hc.within_cases reach body with
      ⟨e, he, hopened, heq⟩ | ⟨e, reason, he, hopened, heq⟩ | ⟨hnone, f, heq⟩
    · have hx : x.2 = closed url := by
        rw [show x = _ from heq]
        exact (hbody.stands (.inUse he)).close_eq
      have hno : ∀ e', Serves make e' url → ¬ ¬ (reach e').IsOpened := by
        intro e' he' hopened'
        cases he'.unique he
        exact hopened' hopened
      refine ⟨iff_of_true (by rw [hx]; exact ⟨rfl, rfl⟩) ?_,
        fun e' he' hopened' => absurd hopened' (hno e' he')⟩
      rintro ⟨e', he', hopened'⟩
      exact hno e' he' hopened'
    · rw [show x = _ from heq]
      refine ⟨iff_of_false ?_ fun hno => hno ⟨e, he, hopened⟩, fun e' he' _ => ?_⟩
      · rintro ⟨hheld, -⟩
        cases hheld
      · cases he'.unique he
        exact ⟨rfl, rfl, reason, rfl⟩
    · rw [show x = _ from heq, hc.eq_closed hnone]
      refine ⟨iff_of_true ⟨rfl, rfl⟩ ?_, fun e he => absurd he (hnone e)⟩
      rintro ⟨e, he, -⟩
      exact hnone e he

/-- Two connections that are tried out, used and closed again: for a file in a directory that is
not there the engine is left behind, and for a database in memory none is. -/
theorem engine_left_behind_iff_missing_directory :
    let make : Maker := Location.Engine.ofUrl
    let reach : Reach := Installed.reach fun _ _ => .refused .cannotOpen
    let left (name : Text) :=
      (within make reach (engine make) { url := Location.fileUrl "sqlite".toList name }).2
    UsesOnly make (engine make) ∧
      (left "nodir/x.db".toList).held.isSome ∧ (left "nodir/x.db".toList).live = 1 ∧
      (left ":memory:".toList).held = none ∧ (left ":memory:".toList).live = 0 := by
  intro make reach left
  have huses : UsesOnly make (engine make) := fun d => ⟨[.engine], rfl⟩
  have hfile := serves_fileUrl "nodir/x.db".toList (by decide) (by decide) (by decide)
  have hmemory := serves_fileUrl ":memory:".toList (by decide) (by decide) (by decide)
  obtain ⟨-, -, -, hwithin⟩ := engine_left_behind_iff make _ []
  obtain ⟨hheld, hlive, -⟩ := (hwithin _ reach (engine make) huses).2 _ hfile id
  obtain ⟨-, -, -, hwithin'⟩ := engine_left_behind_iff make _ []
  refine ⟨huses, Option.isSome_of_mem hheld, hlive, (hwithin' _ reach (engine make) huses).1.2 ?_⟩
  rintro ⟨e, he, hopened⟩
  cases he.unique hmemory
  exact hopened trivial

end Connection
end PlainSearch
