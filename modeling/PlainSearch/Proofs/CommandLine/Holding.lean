/-
  Proofs/CommandLine/Holding.lean --- the one store that a context holds.

  WHAT THIS FILE IS FOR.  A context is told to open a store, to close the one it holds, or to
  use it.  Openings may fail, by what they are given and by what there is around them.  A
  context is judged by the `Event`s it has been through:

      LastOpened events i url     the last opening that succeeded was the one with `i` others
                                  before it, it opened the store of `url`, and no closing
                                  has followed it.

  THE RESULT.  A context holds the store that was last opened, and none if it has been closed
  since; every other store it has handed out is closed, with no engine left behind; and an
  opening that fails leaves the context as it is (`one_store_held`).

  What a use does to the connection of a store is not looked at again: it is enough that it
  leads from state to state (`Connection.Stands`).
-/
import Mathlib.Data.List.Induction
import PlainSearch.Proofs.CommandLine.Opening
import PlainSearch.Proofs.Location.Connection

set_option autoImplicit false

namespace PlainSearch.CommandLine

open Connection (Stands Use)

/-! ## Events -/

/-- What a context is told to do. -/
inductive Event where
  | opens (s : Surroundings) (database : Option Text)
  | closes
  | uses (us : List Use)

namespace Event

/-- A context after an event. -/
def apply (make : Maker) : Event → Context → Context
  | .opens s database, c => (c.openStore s database).2
  | .closes, c => c.close
  | .uses us, c => c.use (Use.applyAll make us)

/-- The URL of the store that an event opens, if it opens one. -/
def opened? : Event → Option Text
  | .opens s database => (locate s database).toOption
  | .closes => none
  | .uses _ => none

/-- The event neither opens a store nor closes one. -/
def Keeps (e : Event) : Prop := e.opened? = none ∧ e ≠ .closes

end Event

/-- A context after events, at first without a store. -/
def Context.after (make : Maker) (events : List Event) : Context :=
  events.foldl (fun c e => e.apply make c) {}

/-- Of the openings that succeeded the last was the one with `i` others before it, it opened the
store of `url`, and no closing followed. -/
def LastOpened (events : List Event) (i : Nat) (url : Text) : Prop :=
  ∃ front e back, events = front ++ e :: back ∧ e.opened? = some url ∧
    (front.filterMap Event.opened?).length = i ∧ ∀ x ∈ back, x.Keeps

variable {events : List Event} {e : Event} {i : Nat} {url : Text}

theorem not_lastOpened_nil : ¬ LastOpened [] i url := by
  rintro ⟨front, e, back, heq, -⟩
  exact absurd heq.symm (List.append_ne_nil_of_right_ne_nil _ (List.cons_ne_nil _ _))

/-- The last event opens a store, or keeps the one that was opened before. -/
theorem lastOpened_concat_iff :
    LastOpened (events ++ [e]) i url ↔
      (e.opened? = some url ∧ (events.filterMap Event.opened?).length = i) ∨
        e.Keeps ∧ LastOpened events i url := by
  constructor
  · rintro ⟨front, x, back, heq, hopened, hcount, hback⟩
    rcases List.eq_nil_or_concat back with rfl | ⟨back', y, rfl⟩
    · obtain ⟨rfl, hlast⟩ := List.append_inj' heq rfl
      cases hlast
      exact .inl ⟨hopened, hcount⟩
    · rw [List.concat_eq_append, ← List.cons_append, ← List.append_assoc] at heq
      obtain ⟨rfl, hlast⟩ := List.append_inj' heq rfl
      cases hlast
      rw [List.concat_eq_append] at hback
      exact .inr ⟨hback e (List.mem_append_right _ List.mem_cons_self), front, x, back', rfl,
        hopened, hcount, fun z hz => hback z (List.mem_append_left _ hz)⟩
  · rintro (⟨hopened, hcount⟩ | ⟨hkeeps, front, x, back, rfl, hopened, hcount, hback⟩)
    · exact ⟨events, e, [], rfl, hopened, hcount, nofun⟩
    · refine ⟨front, x, back ++ [e], by simp, hopened, hcount, fun y hy => ?_⟩
      rcases List.mem_append.1 hy with hy | hy
      · exact hback y hy
      · rwa [List.mem_singleton.1 hy]

/-! ## Contexts -/

namespace Context

/-- Of the connections handed out only the one that is held may hold an engine. -/
structure IsSound (make : Maker) (c : Context) : Prop where
  /-- every connection is in one of its two states -/
  stands : ∀ d ∈ c.handedOut, Stands make d.url d
  /-- one that is not held is closed -/
  atRest : ∀ i d, c.handedOut[i]? = some d → c.held ≠ some i → d = Connection.closed d.url

variable {make : Maker} {c : Context} {f : Connection → Connection}

theorem held_use : (c.use f).held = c.held := by
  unfold use
  split <;> rfl

/-- A use changes no connection but the one that is held. -/
theorem getElem?_use (i : Nat) :
    (c.use f).handedOut[i]? = if c.held = some i then (c.handedOut[i]?).map f
      else c.handedOut[i]? := by
  unfold use
  cases hheld : c.held with
  | none => simp
  | some j =>
    simp only [modify, List.getElem?_modify, Option.some.injEq]
    split
    · rfl
    · simp

/-- A closing is a use that closes the connection, which is then no longer held. -/
theorem close_eq : c.close = { c.use Connection.close with held := none } := by
  unfold close use
  cases hheld : c.held with
  | none => simp only [← hheld]
  | some i => rfl

section

variable (h : c.IsSound make) (hf : ∀ url d, Stands make url d → Stands make url (f d))
include h hf

theorem map_url_use : (c.use f).handedOut.map (·.url) = c.handedOut.map (·.url) := by
  apply List.ext_getElem?
  intro i
  rw [List.getElem?_map, List.getElem?_map, getElem?_use]
  split
  · cases hd : c.handedOut[i]? with
    | none => rfl
    | some d =>
      have hstands := h.stands d (List.mem_of_getElem? hd)
      exact congrArg some (hf _ _ hstands).url_eq
  · rfl

theorem IsSound.use : (c.use f).IsSound make where
  stands d hd := by
    obtain ⟨i, hi⟩ := List.mem_iff_getElem?.1 hd
    rw [getElem?_use] at hi
    split at hi
    · obtain ⟨d', hd', rfl⟩ := Option.map_eq_some_iff.1 hi
      have hstands := hf _ _ (h.stands d' (List.mem_of_getElem? hd'))
      rwa [hstands.url_eq]
    · exact h.stands d (List.mem_of_getElem? hi)
  atRest i d hd hheld := by
    rw [held_use] at hheld
    rw [getElem?_use, if_neg hheld] at hd
    exact h.atRest i d hd hheld

end

theorem map_url_close (h : c.IsSound make) :
    c.close.handedOut.map (·.url) = c.handedOut.map (·.url) := by
  rw [close_eq]
  exact map_url_use h fun _ _ hd => hd.close

theorem length_close (h : c.IsSound make) : c.close.handedOut.length = c.handedOut.length := by
  simpa using congrArg List.length (map_url_close h)

/-- After a closing every connection that was handed out is closed. -/
theorem eq_closed_of_mem_close (h : c.IsSound make) {d : Connection} (hd : d ∈ c.close.handedOut) :
    d = Connection.closed d.url := by
  obtain ⟨i, hi⟩ := List.mem_iff_getElem?.1 hd
  rw [close_eq, getElem?_use] at hi
  split at hi
  · obtain ⟨d', hd', rfl⟩ := Option.map_eq_some_iff.1 hi
    rw [(h.stands d' (List.mem_of_getElem? hd')).close_eq]
    rfl
  · next hheld => exact h.atRest i d hi hheld

theorem IsSound.close (h : c.IsSound make) : c.close.IsSound make where
  stands d hd := by
    rw [eq_closed_of_mem_close h hd]
    exact .atRest
  atRest _ d hd _ := eq_closed_of_mem_close h (List.mem_of_getElem? hd)

/-- A context that is handed the store of a URL, which it holds from then on. -/
def handed (c : Context) (url : Text) : Context :=
  { handedOut := c.close.handedOut ++ [{ url := url }], held := some c.close.handedOut.length }

theorem IsSound.handed (h : c.IsSound make) (url : Text) : (c.handed url).IsSound make := by
  have hclosed : ∀ d ∈ (c.handed url).handedOut, d = Connection.closed d.url := by
    intro d hd
    rcases List.mem_append.1 hd with hd | hd
    · exact eq_closed_of_mem_close h hd
    · rw [List.mem_singleton.1 hd]
      rfl
  refine ⟨fun d hd => ?_, fun i d hd _ => hclosed d (List.mem_of_getElem? hd)⟩
  rw [hclosed d hd]
  exact .atRest

end Context

/-! ## Runs -/

namespace Event

variable {c : Context}

theorem opened?_opens_iff {s : Surroundings} {database : Option Text} :
    (Event.opens s database).opened? = some url ↔ locate s database = .ok url := by
  cases hlocate : locate s database <;> simp [opened?, hlocate, Except.toOption]

theorem apply_of_opened (make : Maker) (h : e.opened? = some url) : e.apply make c = c.handed url := by
  cases e with
  | opens s database =>
    simp only [apply, Context.openStore, opened?_opens_iff.1 h]
    rfl
  | closes => cases h
  | uses us => cases h

/-- An event that neither opens nor closes a store is a use, or an opening that fails and changes
nothing. -/
theorem apply_of_keeps (make : Maker) (h : e.Keeps) (c : Context) :
    e.apply make c = c ∨ ∃ us, e.apply make c = c.use (Use.applyAll make us) := by
  cases e with
  | opens s database =>
    left
    cases hlocate : locate s database with
    | error o => simp only [apply, Context.openStore_of_error hlocate]
    | ok url => cases h.1.symm.trans (opened?_opens_iff.2 hlocate)
  | closes => exact absurd rfl h.2
  | uses us => exact .inr ⟨us, rfl⟩

theorem opened_or_closes_or_keeps (e : Event) :
    (∃ url, e.opened? = some url) ∨ e = .closes ∨ e.Keeps := by
  cases hopened : e.opened? with
  | some url => exact .inl ⟨url, rfl⟩
  | none =>
    by_cases hcloses : e = .closes
    · exact .inr (.inl hcloses)
    · exact .inr (.inr ⟨hopened, hcloses⟩)

end Event

namespace Context

variable {make : Maker} {c : Context}

theorem stands_uses (us : List Use) (url : Text) (d : Connection) (hd : Stands make url d) :
    Stands make url (Use.applyAll make us d) := Connection.stands_applyAll us hd

theorem IsSound.apply (h : c.IsSound make) (e : Event) : (e.apply make c).IsSound make := by
  rcases e.opened_or_closes_or_keeps with ⟨url, hopened⟩ | rfl | hkeeps
  · rw [Event.apply_of_opened make hopened]
    exact h.handed url
  · exact h.close
  · rcases Event.apply_of_keeps make hkeeps c with heq | ⟨us, heq⟩
    · rwa [heq]
    · rw [heq]
      exact h.use (stands_uses us)

theorem after_concat (make : Maker) (events : List Event) (e : Event) :
    after make (events ++ [e]) = e.apply make (after make events) := List.foldl_concat ..

theorem isSound_after (make : Maker) (events : List Event) : (after make events).IsSound make := by
  induction events using List.reverseRecOn with
  | nil => exact ⟨nofun, nofun⟩
  | append_singleton events e ih =>
    rw [after_concat]
    exact ih.apply e

/-- The stores handed out are those that were opened, in their order. -/
theorem map_url_after (make : Maker) (events : List Event) :
    (after make events).handedOut.map (·.url) = events.filterMap Event.opened? := by
  induction events using List.reverseRecOn with
  | nil => rfl
  | append_singleton events e ih =>
    have hsound : (after make events).IsSound make := isSound_after make events
    rw [after_concat, List.filterMap_append, ← ih]
    rcases e.opened_or_closes_or_keeps with ⟨url, hopened⟩ | rfl | hkeeps
    · rw [Event.apply_of_opened make hopened, List.filterMap_cons_some hopened]
      simp [handed, map_url_close hsound]
    · rw [List.filterMap_cons_none rfl, List.filterMap_nil, List.append_nil]
      exact map_url_close hsound
    · rw [List.filterMap_cons_none hkeeps.1, List.filterMap_nil, List.append_nil]
      rcases Event.apply_of_keeps make hkeeps (after make events) with heq | ⟨us, heq⟩
      · rw [heq]
      · rw [heq]
        exact map_url_use hsound (stands_uses us)

theorem length_after (make : Maker) (events : List Event) :
    (after make events).handedOut.length = (events.filterMap Event.opened?).length := by
  simpa using congrArg List.length (map_url_after make events)

/-- The store held is the one that was last opened. -/
theorem held_after_iff (make : Maker) (events : List Event) :
    (after make events).held = some i ↔ ∃ url, LastOpened events i url := by
  induction events using List.reverseRecOn with
  | nil => simp [after, not_lastOpened_nil]
  | append_singleton events e ih =>
    simp only [after_concat, lastOpened_concat_iff]
    rcases e.opened_or_closes_or_keeps with ⟨url, hopened⟩ | rfl | hkeeps
    · have hnot : ¬ e.Keeps := fun h => by cases hopened.symm.trans h.1
      rw [Event.apply_of_opened make hopened, ← length_after make, hopened]
      simp [handed, length_close (isSound_after make events), hnot]
    · have hnot : ¬ Event.closes.Keeps := fun h => h.2 rfl
      simp [Event.apply, Event.opened?, held_close, hnot]
    · rcases Event.apply_of_keeps make hkeeps (after make events) with heq | ⟨us, heq⟩
      · simp [heq, hkeeps, hkeeps.1, ih]
      · simp [heq, held_use, hkeeps, hkeeps.1, ih]

end Context

theorem url_of_lastOpened (h : LastOpened events i url) :
    (events.filterMap Event.opened?)[i]? = some url := by
  obtain ⟨front, e, back, rfl, hopened, rfl, -⟩ := h
  simp [List.filterMap_append, List.filterMap_cons_some hopened]

/-- However stores were opened, used and closed, a context holds the one that was last opened, or
none if it was closed since; every other one that it handed out is closed, with no engine left.
Closing once more changes nothing, an opening that fails changes nothing, and one that
succeeds closes what was held and holds the store of the URL that is located. -/
theorem one_store_held (make : Maker) (events : List Event) :
    let c := Context.after make events
    c.handedOut.map (·.url) = events.filterMap Event.opened? ∧
    (∀ i, c.held = some i ↔ ∃ url, LastOpened events i url) ∧
    (∀ i url, LastOpened events i url → ∃ d, c.handedOut[i]? = some d ∧ d.url = url) ∧
    (∀ i d, c.handedOut[i]? = some d → c.held ≠ some i → d.held = none ∧ d.live = 0) ∧
    c.close.close = c.close ∧
    (∀ s database o, (c.openStore s database).1 = .error o → (c.openStore s database).2 = c) ∧
    ∀ s database url, (Event.opens s database).opened? = some url ↔
      (c.openStore s database).1 = .ok (s.store url) ∧
        (c.openStore s database).2 =
          { handedOut := c.close.handedOut ++ [{ url := url }],
            held := some c.handedOut.length } := by
  intro c
  have hsound : c.IsSound make := Context.isSound_after make events
  refine ⟨Context.map_url_after make events, fun i => Context.held_after_iff make events,
    fun i url hlast => ?_, fun i d hd hheld => ?_, c.close_close, fun s database o ho => ?_,
    fun s database url => ?_⟩
  · have hurl := url_of_lastOpened hlast
    rw [← Context.map_url_after make events, List.getElem?_map] at hurl
    obtain ⟨d, hd, hdurl⟩ := Option.map_eq_some_iff.1 hurl
    exact ⟨d, hd, hdurl⟩
  · rw [hsound.atRest i d hd hheld]
    exact ⟨rfl, rfl⟩
  · rw [Context.openStore_of_error (Context.openStore_eq_error_iff.1 ho)]
  · constructor
    · intro hopened
      have hlocate := Event.opened?_opens_iff.1 hopened
      have happly := Event.apply_of_opened (c := c) make hopened
      refine ⟨Context.openStore_eq_ok_iff.2 ⟨url, hlocate, rfl⟩, ?_⟩
      rw [← Context.length_close hsound]
      exact happly
    · rintro ⟨hopened, -⟩
      obtain ⟨url', hlocate, hstore⟩ := Context.openStore_eq_ok_iff.1 hopened
      have hurl : url = url' := congrArg Store.url hstore
      rw [hurl]
      exact Event.opened?_opens_iff.2 hlocate

/-- A store that is opened and used, an opening that is refused, and another store in place of the
first: the first is closed by the second, and the refusal changes nothing. -/
theorem one_store_held_of_two :
    let s : Surroundings := Installed.surroundings (fun _ => none) ⟨none, fun _ => none⟩
      (fun p => if p = Path.ofText "gone.db".toList then .nothing else .file)
      fun _ _ => Installed.contents {}
    let make : Maker := Location.Engine.ofUrl
    let events : List Event := [.opens s (some "a.db".toList), .uses [.engine],
      .opens s (some "gone.db".toList), .opens s (some "b.db".toList), .uses [.engine]]
    LastOpened events 1 "sqlite:///b.db".toList ∧
      (Context.after make events).held = some 1 ∧
      ((Context.after make (events.take 3)).handedOut.map fun d => d.live) = [1] ∧
      ((Context.after make events).handedOut.map fun d => d.live) = [0, 1] := by
  intro s make events
  have hlast : LastOpened events 1 "sqlite:///b.db".toList :=
    ⟨events.take 3, .opens s (some "b.db".toList), [.uses [.engine]], rfl, rfl, rfl, by
      intro x hx
      cases List.mem_singleton.1 hx
      exact ⟨rfl, nofun⟩⟩
  obtain ⟨-, hheld, -⟩ := one_store_held make events
  exact ⟨hlast, (hheld 1).2 ⟨_, hlast⟩, rfl, rfl⟩

end PlainSearch.CommandLine
