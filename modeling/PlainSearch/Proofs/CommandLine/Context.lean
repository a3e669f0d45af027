/-
  Proofs/CommandLine/Context.lean --- what keeps a database from being looked for.

  WHAT THIS FILE IS FOR.  Before a store is opened, the database is located: its name is
  made a URL, and the file behind the URL is looked up.  Most of what can be amiss is a
  refusal, which a call tells.  Two things are not (`locate_eq_failed_iff`):

      a bare path that begins with the home directory of a user whose home is not
      known, be it given or taken from the environment (`Path.HomeIsUnknown`);

      a path of which the system does not tell whether there is a file, as when it may
      not be looked at or is too long to be looked up (`Presence.untold`).
-/
import PlainSearch.CommandLine.Context

set_option autoImplicit false

namespace PlainSearch

namespace Path

/-- A path begins with the home directory of a user, and that is not known, or is itself to be
found from a home directory. -/
def HomeIsUnknown (homes : Homes) (p : Path) : Prop :=
  p.root = .current ∧ ∃ user rest, p.names = ('~' :: user) :: rest ∧
    (homeOf? homes ('~' :: user) = none ∨ ∃ t, homeOf? homes ('~' :: user) = some ('~' :: t))

theorem expandHome_eq_error_iff {homes : Homes} {p : Path} {f : Fault} :
    p.expandHome homes = .error f ↔ f = .homeUnknown ∧ p.HomeIsUnknown homes := by
  obtain ⟨root, names⟩ := p
  constructor
  · intro h
    unfold expandHome at h
    split at h
    · next user rest hroot hnames =>
      split at h
      · next hhome =>
        cases h
        exact ⟨rfl, hroot, user, rest, hnames, .inl hhome⟩
      · next t hhome =>
        cases h
        exact ⟨rfl, hroot, user, rest, hnames, .inr ⟨t, hhome⟩⟩
      · cases h
    · cases h
  · rintro ⟨rfl, hroot, user, rest, hnames, hhome⟩
    cases hroot
    cases hnames
    rcases hhome with hhome | ⟨t, hhome⟩ <;> simp only [expandHome, hhome]

end Path

namespace Location

/-- The database is named by the bare path `t`, be it named by the user or by the environment. -/
def NamesPath (env : Environment) (named : Option Text) (t : Text) : Prop :=
  (given? named).or (given? (env databaseVariable)) = some t ∧
    Text.occursIn Address.separator t = false ∧ t ≠ memoryName

theorem resolve_eq_error_iff {env : Environment} {homes : Path.Homes} {named : Option Text}
    {f : Fault} :
    resolve env homes named = .error f ↔
      f = .homeUnknown ∧ ∃ t, NamesPath env named t ∧ (Path.ofText t).HomeIsUnknown homes := by
  unfold resolve NamesPath
  cases (given? named).or (given? (env databaseVariable)) with
  | none => simp
  | some t =>
    dsimp only
    split
    · next hurl => simp [hurl]
    · next hbare =>
      split
      · next hmemory => simp [hmemory]
      · next hfile =>
        have hmap : ((Path.ofText t).expandHome homes).map (fun p => some (filePrefix ++ p.text))
            = .error f ↔ (Path.ofText t).expandHome homes = .error f := by
          cases (Path.ofText t).expandHome homes <;> simp [Except.map]
        rw [hmap, Path.expandHome_eq_error_iff]
        constructor
        · rintro ⟨rfl, hhome⟩
          exact ⟨rfl, t, ⟨rfl, Bool.eq_false_iff.2 hbare, hfile⟩, hhome⟩
        · rintro ⟨rfl, _, ⟨ht, -, -⟩, hhome⟩
          cases ht
          exact ⟨rfl, hhome⟩

end Location

namespace CommandLine

/-- A database is not found, with nothing told, exactly if its name begins with a home directory
that is not known, or if the system does not tell whether its file is there. -/
theorem locate_eq_failed_iff {s : Surroundings} {database : Option Text} {f : Fault} :
    locate s database = .error (.failed f) ↔
      (f = .homeUnknown ∧ ∃ t, Location.NamesPath s.environment database t ∧
        (Path.ofText t).HomeIsUnknown s.homes) ∨
      ∃ url p e, Location.resolve s.environment s.homes database = .ok (some url) ∧
        Location.file? url = some p ∧ s.presence p = .untold e ∧ f = .lookup e p.text := by
  rw [← Location.resolve_eq_error_iff]
  unfold locate
  cases hresolve : Location.resolve s.environment s.homes database with
  | error g => simp
  | ok named =>
    cases named with
    | none => simp
    | some url =>
      dsimp only
      cases hfile : Location.file? url with
      | none => simp [hfile]
      | some p => cases hpresence : s.presence p <;> simp [hfile, hpresence, eq_comm]

end CommandLine
end PlainSearch
