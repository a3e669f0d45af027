/-
  Proofs/CommandLine/BarePath.lean --- which file is looked for when a bare path is given.

  WHAT THIS FILE IS FOR.  A database may be named by the bare path of its file.  The path is
  brought to its normal form, with a home directory in place of a tilde, and its text is made
  a URL; the file that is looked for is then taken from that URL.  The text is not escaped in
  between, so not every path survives:

      the path is looked for        exactly if its text has no question mark and is not
                                    :memory: ;

      what stands before the        if there is a question mark, and something else than
      question mark is looked for   :memory: before it;

      nothing is looked for         if nothing stands before the question mark, or if it is
                                    :memory: that does or that the text is, and then an
                                    engine opens a database in memory

  (`bare_path_kept_iff`).  A bare path that is written :memory: names a database in memory; but
  one that is written otherwise may come to be that text in its normal form.
-/
import PlainSearch.Proofs.CommandLine.Opening
import PlainSearch.Proofs.Location.Path

set_option autoImplicit false

namespace PlainSearch

namespace Location

variable {env : Environment} {homes : Path.Homes} {named : Option Text} {t : Text}

/-- A text that is given names a path unless it is empty, a URL, or the name of a database in
memory. -/
theorem namesPath_given (hne : t ≠ []) (hbare : Text.occursIn Address.separator t = false)
    (hmemory : t ≠ memoryName) : NamesPath env (some t) t := by
  refine ⟨?_, hbare, hmemory⟩
  cases t with
  | nil => exact absurd rfl hne
  | cons c t => rfl

theorem resolve_of_namesPath (h : NamesPath env named t) :
    resolve env homes named
      = ((Path.ofText t).expandHome homes).map fun q => some (filePrefix ++ q.text) := by
  obtain ⟨hnamed, hbare, hmemory⟩ := h
  unfold resolve
  rw [hnamed]
  simp only [hbare, hmemory, Bool.false_eq_true, if_false]

/-- The URL of a bare path is that of the path with its home directory, if that is known. -/
theorem resolve_eq_ok_iff_of_namesPath (h : NamesPath env named t) {url : Option Text} :
    resolve env homes named = .ok url ↔
      ∃ q, (Path.ofText t).expandHome homes = .ok q ∧ url = some (filePrefix ++ q.text) := by
  rw [resolve_of_namesPath h]
  cases (Path.ofText t).expandHome homes with
  | error f => simp [Except.map]
  | ok q => simp [Except.map, eq_comm]

/-- Where nothing is left before the question mark, or the name of a database in memory, an engine
opens a database in memory. -/
theorem opening_of_memory {make : Maker} (hmake : make.OpensNamedFiles) {rest : Text} {e : Engine}
    (hname : nameIn rest = [] ∨ nameIn rest = memoryName)
    (he : make (filePrefix ++ rest) = .ok e) (huri : ¬ Engine.TakenForUri rest) :
    (∃ f, e.opening = .impossible f) ∨ e.opening = .target .memory := by
  rw [filePrefix_append] at he
  have hplain : Percent.decode (nameIn rest) = nameIn rest := by
    apply Percent.decode_eq_self
    rcases hname with hname | hname <;> rw [hname] <;> decide
  rcases hmake .dialect he huri with himpossible | htarget
  · exact .inl himpossible
  · rw [hplain] at htarget
    exact .inr (htarget.trans (congrArg Opening.target (if_pos hname)))

end Location

namespace CommandLine

open Location (NamesPath filePrefix memoryName nameIn)

variable {s : Surroundings} {database : Option Text} {t : Text}

/-- Whatever bare path names the database, be it given or taken from the environment, and wherever
home directories are.  There is a URL exactly if the home directory is known that the path may
begin with.  The file behind that URL is the one that the path names exactly if there is no
question mark in the path and it does not come to be the name of a database in memory; then the
call looks for that file.  Otherwise the file behind the URL is named by what stands before the
question mark, and if that is nothing or the name of a database in memory, then no file is looked
for and what an engine opens, if anything, is in memory; this as far as its library opens what is
named. -/
theorem bare_path_kept_iff (h : NamesPath s.environment database t) :
    (∀ url, Location.resolve s.environment s.homes database = .ok url ↔
      ∃ q, (Path.ofText t).expandHome s.homes = .ok q ∧ url = some (filePrefix ++ q.text)) ∧
    ∀ q, (Path.ofText t).expandHome s.homes = .ok q →
      let url := filePrefix ++ q.text
      (Location.file? url = some q ↔ '?' ∉ q.text ∧ q.text ≠ memoryName) ∧
      ('?' ∉ q.text → q.text ≠ memoryName → locate s database =
        match s.presence q with
        | .file => .ok url
        | .nothing => .error (.refused (.fileNotFound q))
        | .untold e => .error (.failed (.lookup e q.text))) ∧
      (∀ p, Location.file? url = some p → p = Path.ofText (nameIn q.text)) ∧
      (Location.file? url = none ↔ nameIn q.text = [] ∨ nameIn q.text = memoryName) ∧
      (nameIn q.text = [] ∨ nameIn q.text = memoryName → locate s database = .ok url ∧
        (s.library.make.OpensNamedFiles →
          ∀ e, s.library.make url = .ok e → ¬ Location.Engine.TakenForUri q.text →
            (∃ f, e.opening = .impossible f) ∨ e.opening = .target .memory)) := by
  refine ⟨fun url => Location.resolve_eq_ok_iff_of_namesPath h, fun q hq => ?_⟩
  have hnormal : q.IsNormal := Path.isNormal_of_expandHome (Path.isNormal_ofText t) hq
  have hresolve : Location.resolve s.environment s.homes database
      = .ok (some (filePrefix ++ q.text)) :=
    (Location.resolve_eq_ok_iff_of_namesPath h).2 ⟨q, hq, rfl⟩
  have hkept := Location.file?_text_eq_self_iff hnormal
  refine ⟨hkept, fun hmark hmemory => ?_, fun p hp => ?_,
    Location.file?_filePrefix_append_eq_none_iff, fun hname => ⟨?_, fun hmake e he huri => ?_⟩⟩
  · exact locate_of_file hresolve (hkept.2 ⟨hmark, hmemory⟩)
  · rw [Location.file?_filePrefix_append] at hp
    split at hp
    · cases hp
    · exact (Option.some.inj hp).symm
  · have hnone := Location.file?_filePrefix_append_eq_none_iff.2 hname
    refine locate_eq_ok_iff.2 ⟨hresolve, fun p hp => ?_⟩
    cases hnone.symm.trans hp
  · exact Location.opening_of_memory hmake hname he huri

/-- A path that is kept, one that is cut at its question mark, and one that comes to be the name of
a database in memory. -/
theorem bare_path_kept_iff_of_each_kind :
    let s : Surroundings := Installed.surroundings (fun _ => none)
      ⟨some "/home/u".toList, fun _ => none⟩
      (fun p => if p = Path.ofText "lib.db".toList then .file else .nothing)
      fun _ _ => Installed.contents {}
    NamesPath s.environment (some "~/lib.db".toList) "~/lib.db".toList ∧
      locate s (some "~/lib.db".toList)
        = .error (.refused (.fileNotFound (Path.ofText "/home/u/lib.db".toList))) ∧
      Location.file? (filePrefix ++ "lib.db?x".toList) ≠ some (Path.ofText "lib.db?x".toList) ∧
      locate s (some "lib.db?x".toList) = .ok "sqlite:///lib.db?x".toList ∧
      locate s (some "./:memory:".toList) = .ok "sqlite:///:memory:".toList ∧
      s.library.make "sqlite:///:memory:".toList = .ok ⟨.sqlite, .target .memory⟩ := by
  intro s
  have hhome : NamesPath s.environment (some "~/lib.db".toList) "~/lib.db".toList :=
    Location.namesPath_given (by decide) (by decide) (by decide)
  have hmark : NamesPath s.environment (some "lib.db?x".toList) "lib.db?x".toList :=
    Location.namesPath_given (by decide) (by decide) (by decide)
  have hmemory : NamesPath s.environment (some "./:memory:".toList) "./:memory:".toList :=
    Location.namesPath_given (by decide) (by decide) (by decide)
  obtain ⟨-, hkept⟩ := bare_path_kept_iff hhome
  obtain ⟨-, hcut⟩ := bare_path_kept_iff hmark
  obtain ⟨-, hlost⟩ := bare_path_kept_iff hmemory
  obtain ⟨-, hlooked, -⟩ := hkept (Path.ofText "/home/u/lib.db".toList) rfl
  obtain ⟨hfile, -⟩ := hcut (Path.ofText "lib.db?x".toList) rfl
  obtain ⟨-, -, -, -, hlocated⟩ := hlost (Path.ofText ":memory:".toList) rfl
  refine ⟨hhome, hlooked (by decide) (by decide), fun h => ?_, rfl, (hlocated (.inr rfl)).1, ?_⟩
  · exact absurd (hfile.1 h).1 (by decide)
  · exact Location.Engine.ofUrl_fileUrl .dialect (by decide) (by decide) (by decide)

end CommandLine
end PlainSearch
