/-
  Proofs/CommandLine/Opening.lean --- when a store is opened, and on which file.

  WHAT THIS FILE IS FOR.  A context looks for the file of a database before it opens a
  store, because an engine would make the file.  Which file is looked for, and which file
  an engine opens, is decided in two places: by `file?`, on the text of the URL, and by
  the library that makes the engine.  Of the library nothing is relied on but that it opens
  the file that is named (`Maker.OpensNamedFiles`), and that only where it says so.

  THE RESULT.  A store is opened exactly if a database is named and the file that is looked
  for, if any, is there.  For the URL of a file that is

      sqlite:///name             exactly if the file of that name is there;

      sqlite+pysqlite:///name    always, for then no file is looked for,

  where an engine opens that file under either scheme, and makes it if it is not there,
  as long as the name has no percent sign and is not taken for a URI
  (`store_opened_iff`).
-/
import PlainSearch.Proofs.CommandLine.Context
import PlainSearch.Proofs.Location.Engine
import PlainSearch.Proofs.Store

set_option autoImplicit false

namespace PlainSearch.CommandLine

open Location (IsFileScheme NamesFile fileUrl nameIn)

variable {s : Surroundings} {database : Option Text} {url : Text}

/-! ## Locating -/

/-- A database is located exactly if it is named, and the file that is looked for is there. -/
theorem locate_eq_ok_iff :
    locate s database = .ok url ↔
      Location.resolve s.environment s.homes database = .ok (some url) ∧
        ∀ p, Location.file? url = some p → s.presence p = .file := by
  constructor
  · intro h
    unfold locate at h
    split at h
    · cases h
    · cases h
    · next url' hresolve =>
      split at h
      · next p hfile =>
        split at h
        · next hpresence =>
          cases h
          refine ⟨hresolve, fun q hq => ?_⟩
          cases hfile.symm.trans hq
          exact hpresence
        · cases h
        · cases h
      · next hfile =>
        cases h
        exact ⟨hresolve, fun p hp => absurd (hfile.symm.trans hp) (Option.some_ne_none p).symm⟩
  · rintro ⟨hresolve, hthere⟩
    unfold locate
    rw [hresolve]
    cases hfile : Location.file? url with
    | none => simp only [hfile]
    | some p => simp only [hfile, hthere p hfile]

/-- A call is refused exactly if no database is named, or the file that is looked for is not
there. -/
theorem locate_eq_refused_iff {r : Refusal} :
    locate s database = .error (.refused r) ↔
      (r = .missingDatabase ∧ Location.resolve s.environment s.homes database = .ok none) ∨
      ∃ url p, Location.resolve s.environment s.homes database = .ok (some url) ∧
        Location.file? url = some p ∧ s.presence p = .nothing ∧ r = .fileNotFound p := by
  unfold locate
  cases hresolve : Location.resolve s.environment s.homes database with
  | error f => simp
  | ok named =>
    cases named with
    | none => simp [eq_comm]
    | some url =>
      dsimp only
      cases hfile : Location.file? url with
      | none => simp [hfile]
      | some p => cases hpresence : s.presence p <;> simp [hfile, hpresence, eq_comm]

/-- Where a file is looked for, it is what there is at its path that decides. -/
theorem locate_of_file {p : Path}
    (hresolve : Location.resolve s.environment s.homes database = .ok (some url))
    (hfile : Location.file? url = some p) :
    locate s database =
      match s.presence p with
      | .file => .ok url
      | .nothing => .error (.refused (.fileNotFound p))
      | .untold e => .error (.failed (.lookup e p.text)) := by
  unfold locate
  rw [hresolve]
  cases hpresence : s.presence p <;> simp only [hfile, hpresence]

/-! ## Opening -/

namespace Context

variable {c : Context}

/-- A store is opened on the database that is located. -/
theorem openStore_eq_ok_iff {store : Store} :
    (c.openStore s database).1 = .ok store ↔
      ∃ url, locate s database = .ok url ∧ store = s.store url := by
  unfold openStore
  cases locate s database with
  | error o => simp
  | ok url => simp [eq_comm]

theorem openStore_eq_error_iff {o : Obstacle} :
    (c.openStore s database).1 = .error o ↔ locate s database = .error o := by
  unfold openStore
  cases locate s database <;> simp

end Context

/-! ## The URL of a file -/

section

variable {scheme rest : Text} {c : Context}

/-- Where no file is looked for, a store is opened whatever there is. -/
theorem locate_of_driver
    (hresolve : Location.resolve s.environment s.homes database
      = .ok (some (fileUrl "sqlite+pysqlite".toList rest))) :
    locate s database = .ok (fileUrl "sqlite+pysqlite".toList rest) := by
  refine locate_eq_ok_iff.2 ⟨hresolve, fun p hp => ?_⟩
  rw [Location.file?_of_driver] at hp
  cases hp

/-- Otherwise it is what there is at the path of the file that decides. -/
theorem locate_of_dialect (hfile : NamesFile rest)
    (hresolve : Location.resolve s.environment s.homes database
      = .ok (some (fileUrl "sqlite".toList rest))) :
    locate s database =
      match s.presence (Path.ofText (nameIn rest)) with
      | .file => .ok (fileUrl "sqlite".toList rest)
      | .nothing => .error (.refused (.fileNotFound (Path.ofText (nameIn rest))))
      | .untold e => .error (.failed (.lookup e (Path.ofText (nameIn rest)).text)) :=
  locate_of_file hresolve (Location.file?_of_dialect hfile)

/-- Under either scheme of a file, whether a store is opened, and whether the missing file is
told. -/
theorem openStore_fileUrl_iff (hscheme : IsFileScheme scheme) (hfile : NamesFile rest)
    (hresolve : Location.resolve s.environment s.homes database
      = .ok (some (fileUrl scheme rest))) :
    let p := Path.ofText (nameIn rest)
    let opened := (c.openStore s database).1
    ((∃ store, opened = .ok store) ↔ (scheme = "sqlite".toList → s.presence p = .file)) ∧
    (opened = .error (.refused (.fileNotFound p)) ↔
      scheme = "sqlite".toList ∧ s.presence p = .nothing) ∧
    ∀ e, opened = .error (.failed (.lookup e p.text)) ↔
      scheme = "sqlite".toList ∧ s.presence p = .untold e := by
  intro p opened
  simp only [opened, Context.openStore_eq_error_iff, Context.openStore_eq_ok_iff]
  cases hscheme with
  | dialect =>
    rw [locate_of_dialect hfile hresolve]
    cases hpresence : s.presence (Path.ofText (nameIn rest)) <;> simp [p]
  | driver =>
    rw [locate_of_driver hresolve]
    simp

/-- With the library that is installed, a store on the URL of a file reads what there is in the
file. -/
theorem opens_fileUrl {name : Text} {db : Reader} {files : Path → Bool → Contents}
    (hlibrary : s.library = Installed.library files) (hscheme : IsFileScheme scheme)
    (hplain : '%' ∉ name) (hquery : '?' ∉ name) (hnull : '\x00' ∉ name)
    (hname : name ≠ [] ∧ name ≠ Location.memoryName)
    (hfiles : files (Path.ofText name) true = .database db) :
    (s.store (fileUrl scheme name)).Opens db := by
  have hengine := Location.Engine.ofUrl_fileUrl hscheme hplain hquery hnull
  have hnamed : Location.Target.named name true = .file (Path.ofText name) true :=
    if_neg (not_or.2 hname)
  rw [hnamed] at hengine
  refine ⟨⟨.sqlite, .target (.file (Path.ofText name) true)⟩, ?_, ?_⟩
  · simp only [Store.engine, Connection.engine, Surroundings.store, hlibrary, Installed.library,
      hengine]
  · simp only [Surroundings.store, hlibrary, Installed.library, Installed.reach, hfiles]

end

/-- Whatever database is named, whatever the environment and the files: a store is opened exactly
if the file that is looked for, if any, is there, and the call is refused exactly if no database is
named or that file is missing.  For the URL of a file, under either scheme, an engine of a library
that opens what is named opens the file of its name and makes it if it is missing; but only under
the scheme that names no driver does a missing file keep the store from being opened. -/
theorem store_opened_iff (s : Surroundings) (database : Option Text) (c : Context) :
    let opened := (c.openStore s database).1
    let named := Location.resolve s.environment s.homes database
    (∀ store, opened = .ok store ↔ ∃ url, named = .ok (some url) ∧ store = s.store url ∧
      ∀ p, Location.file? url = some p → s.presence p = .file) ∧
    (∀ r, opened = .error (.refused r) ↔ (r = .missingDatabase ∧ named = .ok none) ∨
      ∃ url p, named = .ok (some url) ∧ Location.file? url = some p ∧ s.presence p = .nothing ∧
        r = .fileNotFound p) ∧
    ∀ scheme rest, IsFileScheme scheme → NamesFile rest →
      named = .ok (some (fileUrl scheme rest)) →
      let p := Path.ofText (nameIn rest)
      ((∃ store, opened = .ok store) ↔ (scheme = "sqlite".toList → s.presence p = .file)) ∧
      (opened = .error (.refused (.fileNotFound p)) ↔
        scheme = "sqlite".toList ∧ s.presence p = .nothing) ∧
      (∀ e, opened = .error (.failed (.lookup e p.text)) ↔
        scheme = "sqlite".toList ∧ s.presence p = .untold e) ∧
      (s.library.make.OpensNamedFiles →
        ∀ e path made, s.library.make (fileUrl scheme rest) = .ok e →
        e.opening = .target (.file path made) → ¬ Location.Engine.TakenForUri rest →
        path = Path.ofText (Percent.decode (nameIn rest)) ∧ made = true ∧
          ('%' ∉ nameIn rest → path = p)) := by
  intro opened named
  refine ⟨fun store => ?_, fun r => ?_, fun scheme rest hscheme hfile hresolve => ?_⟩
  · rw [Context.openStore_eq_ok_iff]
    constructor
    · rintro ⟨url, hlocate, hstore⟩
      obtain ⟨hresolve, hthere⟩ := locate_eq_ok_iff.1 hlocate
      exact ⟨url, hresolve, hstore, hthere⟩
    · rintro ⟨url, hresolve, hstore, hthere⟩
      exact ⟨url, locate_eq_ok_iff.2 ⟨hresolve, hthere⟩, hstore⟩
  · rw [Context.openStore_eq_error_iff]
    exact locate_eq_refused_iff
  · obtain ⟨hopened, hmissing, huntold⟩ := openStore_fileUrl_iff hscheme hfile hresolve
    refine ⟨hopened, hmissing, huntold, fun hmake e path made he hopening huri => ?_⟩
    obtain ⟨hpath, hmade⟩ := hmake.target hscheme he hopening huri
    refine ⟨hpath, hmade, fun hplain => ?_⟩
    rw [hpath, Percent.decode_eq_self hplain]

/-- A file that is not there, named under either scheme. -/
theorem store_opened_iff_missing :
    let s : Surroundings := Installed.surroundings (fun _ => none) ⟨none, fun _ => none⟩
      (fun _ => .nothing) fun _ _ => Installed.contents {}
    let p := Path.ofText "missing.db".toList
    let url := fileUrl "sqlite+pysqlite".toList "missing.db".toList
    let e : Location.Engine := ⟨.sqlite, .target (.file p true)⟩
    s.presence p = .nothing ∧ s.library.make.OpensNamedFiles ∧ s.library.make url = .ok e ∧
      ¬ Location.Engine.TakenForUri "missing.db".toList ∧
      p = Path.ofText (Percent.decode (nameIn "missing.db".toList)) ∧
      (({} : Context).openStore s (some url)).1 = .ok (s.store url) ∧
      (({} : Context).openStore s (some (fileUrl "sqlite".toList "missing.db".toList))).1
        = .error (.refused (.fileNotFound p)) := by
  intro s p url e
  have hfile : NamesFile "missing.db".toList := ⟨by decide, by decide⟩
  have hengine : s.library.make url = .ok e :=
    Location.Engine.ofUrl_fileUrl .driver (by decide) (by decide) (by decide)
  have hmake : s.library.make.OpensNamedFiles := Location.Engine.ofUrl_opensNamedFiles
  have huri : ¬ Location.Engine.TakenForUri "missing.db".toList := nofun
  obtain ⟨hopened, -, hdriver⟩ := store_opened_iff s (some url) {}
  obtain ⟨-, -, -, hmade⟩ := hdriver _ _ .driver hfile rfl
  obtain ⟨-, -, hrest⟩ :=
    store_opened_iff s (some (fileUrl "sqlite".toList "missing.db".toList)) {}
  obtain ⟨-, hmissing, -⟩ := hrest _ _ .dialect hfile rfl
  refine ⟨rfl, hmake, hengine, huri, (hmade hmake e p true hengine rfl huri).1,
    (hopened _).2 ⟨url, rfl, rfl, fun q hq => ?_⟩, hmissing.2 ⟨rfl, rfl⟩⟩
  rw [Location.file?_of_driver] at hq
  cases hq

end PlainSearch.CommandLine
