/-
  Proofs/CommandLine/Ending.lean --- every call ends in one way, or by a failure that is not told.

  WHAT THIS FILE IS FOR.  A call of `schema`, `ask` or `translate` that has the form of one
  goes through its settings, its request and its database before the command runs.
  The commands differ in what they do in a store (`Command.Does`), and not in how they
  come to it: a call is refused before the database is looked for, or else it ends as its
  command does in the store that is named (`call_cases`).

  THE RESULT.  Such a call ends in exactly one of three ways, with a result, with a failure that
  is told, or with a refusal in one line, unless the database cannot be looked for:

      its failure then escapes, and is one of the two that `locate_eq_failed_iff` gives;

      or the name of a file that is not there has a line break in it, and so has the
      refusal that tells of it (`call_ends_in_one_way_iff`).

  Nothing that discovery, planning or the engine can do is among the exceptions.
-/
import PlainSearch.Installed
import PlainSearch.Proofs.CommandLine.Context
import PlainSearch.Proofs.CommandLine.Outcome
import PlainSearch.Proofs.Validation.Defect

set_option autoImplicit false

namespace PlainSearch.CommandLine

/-! ## Settings -/

section

variable {s : Surroundings} {o : Options}

/-- A sample size can be unreadable, and nothing else is wrong with it at first. -/
theorem eq_unreadable_of_sampleSize {e : SettingFault} (h : sampleSize s o = .error e) :
    e = .unreadable := by
  unfold sampleSize at h
  split at h
  · cases h
  · split at h
    · cases h
    · cases h
      rfl

/-- Why settings that do not pass the check are refused. -/
def refusalOf (ps : List Problem) : SettingFault :=
  .invalid ((ps.head?.map fun p => p.defect.message).getD [])

theorem settings_eq_bind (s : Surroundings) (o : Options) :
    settings s o = (sampleSize s o).bind fun size =>
      match Settings.check (.record (Settings.fieldsOf
        (o.suffix.or (Location.given? (s.environment Settings.suffixVariable))) size)) with
      | .ok given => .ok given
      | .error ps => .error (refusalOf ps) := rfl

/-- Settings fail as the sample size does, or as the check of them does. -/
theorem settings_eq_error {e : SettingFault} (h : settings s o = .error e) :
    sampleSize s o = .error e ∨ ∃ suffix size ps,
      Settings.check (.record (Settings.fieldsOf suffix size)) = .error ps ∧ e = refusalOf ps := by
  rw [settings_eq_bind] at h
  cases hsize : sampleSize s o with
  | error e' =>
    rw [hsize] at h
    cases h
    exact .inl rfl
  | ok size =>
    simp only [hsize, Except.bind] at h
    split at h
    · cases h
    · next ps hps =>
      cases h
      exact .inr ⟨_, size, ps, hps, rfl⟩

/-- Why settings are refused is told in one line. -/
theorem newline_not_mem_of_settings {reason : Text}
    (h : settings s o = .error (.invalid reason)) : '\n' ∉ reason := by
  rcases settings_eq_error h with hsize | ⟨suffix, size, ps, hps, hreason⟩
  · cases eq_unreadable_of_sampleSize hsize
  · cases hreason
    cases ps with
    | nil => exact List.not_mem_nil
    | cons p ps =>
      exact Settings.newline_not_mem_message _
        (Settings.only_check_fieldsOf suffix size _ hps p List.mem_cons_self)

end

/-! ## Commands -/

/-- What a command does in a store, once it is known what it is asked. -/
inductive Command.Does (env : Location.Environment) (settings : Settings) (answer : Store.Answer) :
    Command → (Store → Traced Result) → Prop
  | schema (database : Option Text) : Does env settings answer (.schema database) (listed settings)
  | ask {database query : Option Text} {q : Text}
      (h : spoken? (places env database query).2 = some q) :
      Does env settings answer (.ask database query) (asked settings answer q)
  | translate {database query : Option Text} {q : Text}
      (h : spoken? (places env database query).2 = some q) :
      Does env settings answer (.translate database query) (translated settings q)

variable {s : Surroundings} {answer : Store.Answer} {o : Options} {c : Context}

/-- On a request that says nothing no command runs; on one that says something, the command given
for it. -/
theorem onRequest_cases (database query : Option Text) (command : Text → Store → Traced Result) :
    (Command.spoken? (Command.places s.environment database query).2 = none ∧
      (onRequest s o database query command c).1 = .refused Refusal.missingQuery.message) ∨
    ∃ q, Command.spoken? (Command.places s.environment database query).2 = some q ∧
      onRequest s o database query command c
        = inStore s o (Command.places s.environment database query).1 (command q) c := by
  cases hquery : Command.spoken? (Command.places s.environment database query).2 with
  | none => exact .inl ⟨rfl, by simp only [onRequest, hquery]⟩
  | some q => exact .inr ⟨q, rfl, by simp only [onRequest, hquery]⟩

/-- A command other than `version` runs in the store that is named, or it has no request. -/
theorem run_cases (settings : Settings) {command : Command} (hversion : command ≠ .version) :
    ((∀ work, ¬ command.Does s.environment settings answer work) ∧
      (command.run s answer o settings c).1 = .refused Refusal.missingQuery.message) ∨
    ∃ work, command.Does s.environment settings answer work ∧
      command.run s answer o settings c
        = inStore s o (command.database s.environment) work c := by
  cases command with
  | version => exact absurd rfl hversion
  | schema database => exact .inr ⟨_, .schema database, rfl⟩
  | ask database query =>
    rcases onRequest_cases database query (asked settings answer) with
      ⟨hquery, hrun⟩ | ⟨q, hquery, hrun⟩
    · refine .inl ⟨?_, hrun⟩
      rintro _ (_ | h | _)
      rw [hquery] at h
      cases h
    · exact .inr ⟨_, .ask hquery, hrun⟩
  | translate database query =>
    rcases onRequest_cases database query (translated settings) with
      ⟨hquery, hrun⟩ | ⟨q, hquery, hrun⟩
    · refine .inl ⟨?_, hrun⟩
      rintro _ (_ | _ | h)
      rw [hquery] at h
      cases h
    · exact .inr ⟨_, .translate hquery, hrun⟩

/-! ## Calls -/

/-- The command comes to do its work: the settings are valid, and its request says something. -/
def Starts (s : Surroundings) (answer : Store.Answer) (o : Options) (command : Command)
    (work : Store → Traced Result) : Prop :=
  ∃ given, settings s o = .ok given ∧ command.Does s.environment given answer work

/-- The arguments are those of a call that has the form of one, for a command other than
`version`. -/
structure IsCallOf (s : Surroundings) (args : List Text) (o : Options) (command : Command) :
    Prop where
  /-- the arguments are options, and a command with what it takes -/
  read : ∃ word rest name, Options.read? {} args = some (o, word :: rest) ∧
    CommandName.ofText? word = some name ∧ Command.read? name rest = some command
  ne_version : command ≠ .version
  sampleSize : sampleSize s o ≠ .error .unreadable

variable {args : List Text} {command : Command}

theorem call_of_settings (answer : Store.Answer) (h : IsCallOf s args o command) :
    (∃ reason, settings s o = .error (.invalid reason) ∧
      call s answer args = .refused ("invalid option: ".toList ++ reason)) ∨
    ∃ given, settings s o = .ok given ∧
      call s answer args = (command.run s answer o given {}).1 := by
  obtain ⟨word, rest, name, hoptions, hname, hcommand⟩ := h.read
  unfold call
  rw [hoptions]
  cases hsettings : settings s o with
  | ok given => exact .inr ⟨given, rfl, by simp only [hsettings, hname, hcommand]⟩
  | error e =>
    cases e with
    | unreadable =>
      rcases settings_eq_error hsettings with hsize | ⟨_, _, _, -, hinvalid⟩
      · exact absurd hsize h.sampleSize
      · cases hinvalid
    | invalid reason => exact .inl ⟨reason, rfl, by simp only [hsettings, hname]⟩

/-- A call is refused before the database is looked for, or else it ends as its command does in the
store that is named. -/
theorem call_cases (answer : Store.Answer) (h : IsCallOf s args o command) :
    ((∀ work, ¬ Starts s answer o command work) ∧
      ∃ reason, '\n' ∉ reason ∧ call s answer args = .refused reason) ∨
    ∃ work, Starts s answer o command work ∧
      call s answer args = (inStore s o (command.database s.environment) work {}).1 := by
  rcases call_of_settings answer h with ⟨reason, hsettings, hcall⟩ | ⟨given, hsettings, hcall⟩
  · left
    refine ⟨?_, _, ?_, hcall⟩
    · rintro work ⟨given, hgiven, -⟩
      cases hsettings.symm.trans hgiven
    · rw [List.mem_append, not_or]
      exact ⟨by decide, newline_not_mem_of_settings hsettings⟩
  · rcases run_cases given h.ne_version with ⟨hdoes, hrun⟩ | ⟨work, hdoes, hrun⟩
    · left
      refine ⟨?_, _, by decide, hcall.trans hrun⟩
      rintro work ⟨given', hgiven, hdoes'⟩
      cases hsettings.symm.trans hgiven
      exact hdoes work hdoes'
    · exact .inr ⟨work, ⟨given, hsettings, hdoes⟩, by rw [hcall, hrun]⟩

/-- What a command does is one thing. -/
theorem Starts.unique {v w : Store → Traced Result} (hv : Starts s answer o command v)
    (hw : Starts s answer o command w) : v = w := by
  obtain ⟨given, hgiven, hv⟩ := hv
  obtain ⟨given', hgiven', hw⟩ := hw
  cases hgiven.symm.trans hgiven'
  cases hv with
  | schema database =>
    cases hw
    rfl
  | ask hq =>
    cases hw with
    | ask hq' =>
      cases hq.symm.trans hq'
      rfl
  | translate hq =>
    cases hw with
    | translate hq' =>
      cases hq.symm.trans hq'
      rfl

/-- Of the refusals only the one that names a file can take more than a line. -/
theorem newline_mem_message_iff {r : Refusal} :
    '\n' ∈ r.message ↔ ∃ p, r = .fileNotFound p ∧ '\n' ∈ p.text := by
  constructor
  · intro h
    cases r with
    | missingQuery => exact absurd h (by decide)
    | missingDatabase => exact absurd h (by decide)
    | fileNotFound p =>
      rcases List.mem_append.1 h with hfront | hpath
      · exact absurd hfront (by decide)
      · exact ⟨p, rfl, hpath⟩
  · rintro ⟨p, rfl, hpath⟩
    exact List.mem_append_right _ hpath

/-! ## Endings -/

section

variable {work : Store → Traced Result}

/-- Once a command starts, the call ends as the command does in the store that is named. -/
theorem call_of_starts (h : IsCallOf s args o command) (hwork : Starts s answer o command work) :
    call s answer args = (inStore s o (command.database s.environment) work {}).1 := by
  rcases call_cases answer h with ⟨hnone, -⟩ | ⟨work', hwork', hcall⟩
  · exact absurd hwork (hnone work)
  · rw [hcall, hwork'.unique hwork]

theorem endsIn_refusal_of_not_starts (h : IsCallOf s args o command)
    (hnone : ∀ work, ¬ Starts s answer o command work) :
    (call s answer args).EndsIn .refusal := by
  rcases call_cases answer h with ⟨-, reason, hline, hcall⟩ | ⟨work, hwork, -⟩
  · rw [hcall]
    exact ⟨reason, Outcome.refuses_refused reason, hline⟩
  · exact absurd hwork (hnone work)

theorem refuses_of_starts (h : IsCallOf s args o command) (hwork : Starts s answer o command work)
    {r : Refusal} (hlocate : locate s (command.database s.environment) = .error (.refused r)) :
    (call s answer args).Refuses r.message := by
  rw [call_of_starts h hwork, inStore_of_refused hlocate]
  exact Outcome.refuses_refused _

theorem escaped_of_starts (h : IsCallOf s args o command) (hwork : Starts s answer o command work)
    {f : Fault} (hlocate : locate s (command.database s.environment) = .error (.failed f)) :
    (call s answer args).escaped = some f := by
  rw [call_of_starts h hwork, inStore_of_failed hlocate]
  rfl

section

variable (h : IsCallOf s args o command) (hpretty : o.pretty = false)
  (hwork : Starts s answer o command work) {url : Text}
  (hlocate : locate s (command.database s.environment) = .ok url)
include h hpretty hwork hlocate

theorem tells_of_starts {r : Result} (hr : (work (s.store url)).outcome = .ok r) :
    (call s answer args).Tells r := by
  rw [call_of_starts h hwork, inStore_of_ok hlocate]
  exact tells_conclude hpretty hr

theorem tellsFailure_of_starts {f : Fault} (hf : (work (s.store url)).outcome = .error f) :
    (call s answer args).TellsFailure f := by
  rw [call_of_starts h hwork, inStore_of_ok hlocate]
  exact tellsFailure_conclude hpretty hf

/-- Whatever a command comes to is told. -/
theorem exists_endsIn_of_starts : ∃ way, (call s answer args).EndsIn way := by
  cases hout : (work (s.store url)).outcome with
  | ok r => exact ⟨.result, r, tells_of_starts h hpretty hwork hlocate hout⟩
  | error f => exact ⟨.failure, f, tellsFailure_of_starts h hpretty hwork hlocate hout⟩

end

/-- What escapes a call that starts is why its database cannot be looked for. -/
theorem escaped_eq_some_iff (h : IsCallOf s args o command) (hpretty : o.pretty = false)
    {f : Fault} :
    (call s answer args).escaped = some f ↔ (∃ work, Starts s answer o command work) ∧
      locate s (command.database s.environment) = .error (.failed f) := by
  constructor
  · intro hescaped
    have hends : ∀ way, ¬ (call s answer args).EndsIn way := by
      intro way hway
      cases hway.escaped.symm.trans hescaped
    by_cases hstarts : ∃ work, Starts s answer o command work
    · refine ⟨hstarts, ?_⟩
      obtain ⟨work, hwork⟩ := hstarts
      cases hlocate : locate s (command.database s.environment) with
      | ok url =>
        obtain ⟨way, hway⟩ := exists_endsIn_of_starts h hpretty hwork hlocate
        exact absurd hway (hends way)
      | error obstacle =>
        cases obstacle with
        | refused r =>
          cases (refuses_of_starts h hwork hlocate).escaped.symm.trans hescaped
        | failed g =>
          cases (escaped_of_starts h hwork hlocate).symm.trans hescaped
          rfl
    · exact absurd (endsIn_refusal_of_not_starts h (not_exists.1 hstarts)) (hends _)
  · rintro ⟨⟨work, hwork⟩, hlocate⟩
    exact escaped_of_starts h hwork hlocate

/-- A call ends in a way unless its database cannot be looked for, or the refusal that tells of a
missing file takes more than a line. -/
theorem exists_endsIn_iff (h : IsCallOf s args o command) (hpretty : o.pretty = false) :
    (∃ way, (call s answer args).EndsIn way) ↔
      ¬ ((∃ work, Starts s answer o command work) ∧
        ((∃ f, locate s (command.database s.environment) = .error (.failed f)) ∨
          ∃ p, locate s (command.database s.environment) = .error (.refused (.fileNotFound p)) ∧
            '\n' ∈ p.text)) := by
  by_cases hstarts : ∃ work, Starts s answer o command work
  · obtain ⟨work, hwork⟩ := hstarts
    cases hlocate : locate s (command.database s.environment) with
    | ok url =>
      refine iff_of_true (exists_endsIn_of_starts h hpretty hwork hlocate) ?_
      rintro ⟨-, ⟨f, hf⟩ | ⟨p, hp, -⟩⟩
      · cases hf
      · cases hp
    | error obstacle =>
      cases obstacle with
      | refused r =>
        rw [(refuses_of_starts h hwork hlocate).exists_endsIn_iff, newline_mem_message_iff]
        constructor
        · rintro hline ⟨-, ⟨f, hf⟩ | ⟨p, hp, hpath⟩⟩
          · cases hf
          · cases hp
            exact hline ⟨p, rfl, hpath⟩
        · rintro hno ⟨p, rfl, hpath⟩
          exact hno ⟨⟨work, hwork⟩, .inr ⟨p, rfl, hpath⟩⟩
      | failed f =>
        refine iff_of_false ?_ fun hno => hno ⟨⟨work, hwork⟩, .inl ⟨f, rfl⟩⟩
        rintro ⟨way, hway⟩
        cases hway.escaped.symm.trans (escaped_of_starts h hwork hlocate)
  · exact iff_of_true ⟨_, endsIn_refusal_of_not_starts h (not_exists.1 hstarts)⟩
      fun hno => hstarts hno.1

end

/-- A call ends in exactly one way, with a result, with a failure that is told or with a refusal in
one line, unless its database cannot be looked for, or the file that is not there has a line break
in its name.  What escapes a call is why its database could not be looked for: an unknown home
directory, or a path of which the system does not tell whether there is a file.  In a store that is
opened, the call tells whatever its command comes to. -/
theorem call_ends_in_one_way_iff {s : Surroundings} (answer : Store.Answer) {o : Options}
    {args : List Text} {command : Command} (h : IsCallOf s args o command)
    (hpretty : o.pretty = false) :
    let x := call s answer args
    let database := command.database s.environment
    ((∃! way, x.EndsIn way) ↔
      ¬ ((∃ work, Starts s answer o command work) ∧
        ((∃ f, locate s database = .error (.failed f)) ∨
          ∃ p, locate s database = .error (.refused (.fileNotFound p)) ∧ '\n' ∈ p.text))) ∧
    (∀ f, x.escaped = some f ↔
      (∃ work, Starts s answer o command work) ∧ locate s database = .error (.failed f)) ∧
    (∀ f, locate s database = .error (.failed f) ↔
      (f = .homeUnknown ∧ ∃ t, Location.NamesPath s.environment database t ∧
        (Path.ofText t).HomeIsUnknown s.homes) ∨
      ∃ url p e, Location.resolve s.environment s.homes database = .ok (some url) ∧
        Location.file? url = some p ∧ s.presence p = .untold e ∧ f = .lookup e p.text) ∧
    (∀ work url, Starts s answer o command work → locate s database = .ok url →
      (∀ r, (work (s.store url)).outcome = .ok r → x.Tells r) ∧
      ∀ f, (work (s.store url)).outcome = .error f → x.TellsFailure f) ∧
    (∀ work r, Starts s answer o command work → locate s database = .error (.refused r) →
      x.Refuses r.message) ∧
    ((∀ work, ¬ Starts s answer o command work) → x.EndsIn .refusal) := by
  intro x database
  refine ⟨Outcome.existsUnique_endsIn_iff.trans (exists_endsIn_iff h hpretty),
    fun f => escaped_eq_some_iff h hpretty, fun f => locate_eq_failed_iff,
    fun work url hwork hlocate => ⟨fun r hr => ?_, fun f hf => ?_⟩,
    fun work r hwork hlocate => refuses_of_starts h hwork hlocate,
    endsIn_refusal_of_not_starts h⟩
  · exact tells_of_starts h hpretty hwork hlocate hr
  · exact tellsFailure_of_starts h hpretty hwork hlocate hf

/-- A call for the database of a user whose home directory is not known, and one for a database
that may not be looked at. -/
theorem call_ends_in_one_way_iff_unknown_home :
    let s : Surroundings := Installed.surroundings (fun _ => none)
      ⟨some "/home/u".toList, fun _ => none⟩
      (fun p => if p = Path.ofText "kept/x.db".toList then .untold .permissionDenied else .file)
      fun _ _ => Installed.contents {}
    let answer : Store.Answer := fun _ => .empty
    let args (database : Text) := ["ask".toList, database, "books".toList]
    IsCallOf s (args "~nosuchuser0/x.db".toList) {}
        (.ask (some "~nosuchuser0/x.db".toList) (some "books".toList)) ∧
      (call s answer (args "~nosuchuser0/x.db".toList)).escaped = some .homeUnknown ∧
      (call s answer (args "kept/x.db".toList)).escaped
        = some (.lookup .permissionDenied "kept/x.db".toList) ∧
      ¬ ∃! way, (call s answer (args "kept/x.db".toList)).EndsIn way := by
  intro s answer args
  have hcall (database : Text) (hread : Command.read? .ask [database, "books".toList]
      = some (.ask (some database) (some "books".toList)))
      (hoptions : Options.read? {} (args database) = some ({}, args database)) :
      IsCallOf s (args database) {} (.ask (some database) (some "books".toList)) :=
    ⟨⟨_, _, _, hoptions, rfl, hread⟩, nofun, nofun⟩
  have hstarts (database : Text) (hplaces : Command.places s.environment (some database)
      (some "books".toList) = (some database, some "books".toList)) :
      Starts s answer {} (.ask (some database) (some "books".toList))
        (asked {} answer "books".toList) := ⟨{}, rfl, .ask (by rw [hplaces]; rfl)⟩
  have hhome := hcall "~nosuchuser0/x.db".toList rfl rfl
  have hkept := hcall "kept/x.db".toList rfl rfl
  obtain ⟨-, hescaped, hfailed, -⟩ := call_ends_in_one_way_iff answer hhome rfl
  have hlocate := (hfailed .homeUnknown).2 (.inl ⟨rfl, "~nosuchuser0/x.db".toList, ⟨rfl, by decide,
    by decide⟩, by decide, "nosuchuser0".toList, ["x.db".toList], by decide, .inl rfl⟩)
  obtain ⟨hends, hescaped', hfailed', -⟩ := call_ends_in_one_way_iff answer hkept rfl
  have hlocate' := (hfailed' (.lookup .permissionDenied "kept/x.db".toList)).2
    (.inr ⟨"sqlite:///kept/x.db".toList, Path.ofText "kept/x.db".toList, .permissionDenied, rfl, rfl,
      rfl, rfl⟩)
  exact ⟨hhome, (hescaped _).2 ⟨⟨_, hstarts _ rfl⟩, hlocate⟩,
    (hescaped' _).2 ⟨⟨_, hstarts _ rfl⟩, hlocate'⟩,
    fun h => hends.1 h ⟨⟨_, hstarts _ rfl⟩, .inl ⟨_, hlocate'⟩⟩⟩

end PlainSearch.CommandLine
