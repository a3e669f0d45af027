/-
  Proofs/Location/Engine.lean --- the file that an engine opens for the URL of a file.

  WHAT THIS FILE IS FOR.  The URL of a database in a file has nothing between its scheme
  and its third slash.  There are two schemes for it (`IsFileScheme`), one of which names
  the driver besides, and the reading of such a URL is the same for both:

      scheme:///name?query        the database is `name`, with percent triples decoded,
                                  and nobody and no host is named  (`Address.read_fileUrl`).

  So an engine for such a URL opens the file of that name, and makes it if it is not
  there, unless the query asks for the name to be taken for a URI.  That is what is relied
  on of a library (`Maker.OpensNamedFiles`), and the one that is installed does it
  (`Engine.ofUrl_opensNamedFiles`).  Without a query that library has an engine for every
  name that is written as it is (`Engine.ofUrl_fileUrl`).
-/
import PlainSearch.Location.Connection
import PlainSearch.Location.Url
import PlainSearch.Proofs.Text.Digit
import PlainSearch.Proofs.Text.Utf8

set_option autoImplicit false

namespace PlainSearch

namespace Location

/-- The URL of a file: a scheme, and what stands behind the third slash. -/
def fileUrl (scheme rest : Text) : Text := scheme ++ (Address.separator ++ '/' :: rest)

/-- The schemes of databases in files: the dialect alone, or with its driver. -/
inductive IsFileScheme : Text → Prop
  | dialect : IsFileScheme "sqlite".toList
  | driver : IsFileScheme "sqlite+pysqlite".toList

/-- The name in what stands behind the third slash. -/
def nameIn (rest : Text) : Text := rest.takeWhile (· ≠ '?')

/-- The query in what stands behind the third slash, with its question mark. -/
def queryIn (rest : Text) : Text := rest.dropWhile (· ≠ '?')

variable {scheme rest : Text}

theorem mark_not_mem_nameIn (rest : Text) : '?' ∉ nameIn rest := fun h => by
  simpa using List.mem_takeWhile_imp h

theorem nameIn_eq_self_iff : nameIn rest = rest ↔ '?' ∉ rest := by
  unfold nameIn
  rw [List.takeWhile_eq_self_iff]
  constructor
  · intro h hmark
    simpa using h '?' hmark
  · intro h c hc
    simpa using ne_of_mem_of_not_mem hc h

/-! ## Reading the URL of a file -/

namespace Address

theorem scheme?_fileUrl (h : IsFileScheme scheme) (rest : Text) :
    scheme? (fileUrl scheme rest) = some (scheme, '/' :: rest) := by
  have hstop : ∀ c ∈ (separator ++ '/' :: rest).head?,
      (Text.isWordChar c || decide (c = '+')) = false := by
    rintro c hc
    cases hc
    decide
  have hall : ∀ c ∈ scheme, (Text.isWordChar c || decide (c = '+')) = true := by
    apply List.all_eq_true.1
    cases h <;> decide
  have hsplit : Text.stripPrefix? separator (separator ++ '/' :: rest) = some ('/' :: rest) :=
    Text.stripPrefix?_eq_some_iff.2 rfl
  unfold scheme? fileUrl
  dsimp only
  rw [Text.takeWhile_run hall hstop, Text.dropWhile_run hall hstop, hsplit]
  cases h <;> rfl

/-- The parts of the URL of a file. -/
theorem read_fileUrl (h : IsFileScheme scheme) (rest : Text) :
    read (fileUrl scheme rest) = .ok
      { scheme := scheme, database := some (Percent.decode (nameIn rest)),
        query := readQuery (queryIn rest) } := by
  -- at the third slash neither a user nor a host nor a port begins
  have huser : readUser ('/' :: rest) = ((none, none), '/' :: rest) := rfl
  have hhost : readHost ('/' :: rest) = (none, '/' :: rest) := rfl
  have hport : readPort ('/' :: rest) = (none, '/' :: rest) := rfl
  unfold read
  rw [scheme?_fileUrl h]
  simp only [huser, hhost, hport]
  rfl

end Address

/-! ## The engine for the URL of a file -/

namespace Engine

theorem dialectOf_fileScheme (h : IsFileScheme scheme) : dialectOf scheme = .ok .sqlite := by
  cases h <;> rfl

/-- The address that an engine for the URL of a file goes by. -/
def addressOf (scheme rest : Text) : Address :=
  { scheme := scheme, database := some (Percent.decode (nameIn rest)),
    query := (Address.readQuery (queryIn rest)).filter fun q => q.1 ≠ "plugins".toList }

/-- The query asks for the name to be taken for a URI. -/
def TakenForUri (rest : Text) : Prop :=
  (truthValue ((addressOf [] rest).values "uri".toList)).toOption.getD false = true

theorem ofFile_of_ofUrl {e : Engine} (h : IsFileScheme scheme)
    (he : ofUrl (fileUrl scheme rest) = .ok e) : ofFile (addressOf scheme rest) = .ok e := by
  unfold ofUrl at he
  rw [Address.read_fileUrl h] at he
  simp only [Except.mapError, bind, Except.bind] at he
  split at he
  · rw [dialectOf_fileScheme h] at he
    exact he
  · cases he

/-- What is opened for a name that is not taken for a URI. -/
theorem openingOf_of_not_uri {a : Address} {name : Text} (hname : a.database = some name) :
    openingOf a false = .ok (match checkHanded a (some name) with
      | .error f => .impossible f
      | .ok _ => .target (Target.named name true)) := by
  unfold openingOf
  simp only [hname, Option.getD_some, Bool.not_false, if_true, Bool.false_eq_true, if_false]
  cases checkHanded a (some name) <;> rfl

/-- An engine for the URL of a file goes by the name in it, unless the query asks for the name to
be taken for a URI. -/
theorem opening_of_ofUrl {e : Engine} (h : IsFileScheme scheme)
    (he : ofUrl (fileUrl scheme rest) = .ok e) (huri : ¬ TakenForUri rest) :
    (∃ f, e.opening = .impossible f) ∨
      e.opening = .target (Target.named (Percent.decode (nameIn rest)) true) := by
  have hfile := ofFile_of_ofUrl h he
  have hnotUri : (truthValue ((addressOf scheme rest).values "uri".toList)).toOption.getD false
      = false := Bool.eq_false_iff.2 huri
  unfold ofFile at hfile
  simp only [bind, Except.bind, pure, Except.pure, hnotUri,
    openingOf_of_not_uri (a := addressOf scheme rest) rfl] at hfile
  split at hfile
  · next hserver => exact absurd hserver Bool.false_ne_true
  split at hfile
  · cases hfile
  · cases hfile
    cases checkHanded (addressOf scheme rest) (some (Percent.decode (nameIn rest))) with
    | error f => exact .inl ⟨f, rfl⟩
    | ok _ => exact .inr rfl

/-- Without settings a name that has no null character is opened. -/
theorem ofFile_of_no_query (scheme : Text) {name : Text} (hnull : '\x00' ∉ name) :
    ofFile { scheme := scheme, database := some name }
      = .ok ⟨.sqlite, .target (Target.named name true)⟩ := by
  have hhanded : checkHanded { scheme := scheme, database := some name } (some name) = .ok () := by
    have hcontains : name.contains '\x00' = false := by simpa using hnull
    unfold checkHanded
    simp only [hcontains]
    rfl
  have hopening : openingOf { scheme := scheme, database := some name } false
      = .ok (.target (Target.named name true)) := by
    rw [openingOf_of_not_uri rfl, hhanded]
  have hengine : ofFile { scheme := scheme, database := some name }
      = (openingOf { scheme := scheme, database := some name } false).bind
        fun opening => .ok ⟨.sqlite, opening⟩ := rfl
  rw [hengine, hopening]
  rfl

/-- Without a query there is an engine for the URL of a file, for every name that is written as it
is and can be handed to it. -/
theorem ofUrl_fileUrl {name : Text} (h : IsFileScheme scheme) (hplain : '%' ∉ name)
    (hquery : '?' ∉ name) (hnull : '\x00' ∉ name) :
    ofUrl (fileUrl scheme name) = .ok ⟨.sqlite, .target (Target.named name true)⟩ := by
  have hnone : queryIn name = [] :=
    List.dropWhile_eq_nil_iff.2 fun c hc => by simpa using ne_of_mem_of_not_mem hc hquery
  unfold ofUrl
  rw [Address.read_fileUrl h, nameIn_eq_self_iff.2 hquery, hnone, Percent.decode_eq_self hplain]
  simp only [Except.mapError, bind, Except.bind, dialectOf_fileScheme h]
  exact ofFile_of_no_query scheme hnull

end Engine

end Location

/-! ## What is relied on of a library -/

open Location

/-- For the URL of a file, what an engine opens, if anything, is the file of the name in it, which
is made if it is not there.  The query may ask for something else. -/
def Maker.OpensNamedFiles (make : Maker) : Prop :=
  ∀ {scheme rest : Text} {e : Engine}, IsFileScheme scheme → make (fileUrl scheme rest) = .ok e →
    ¬ Engine.TakenForUri rest →
    (∃ f, e.opening = .impossible f) ∨
      e.opening = .target (Target.named (Percent.decode (nameIn rest)) true)

theorem Location.Engine.ofUrl_opensNamedFiles : Maker.OpensNamedFiles Engine.ofUrl :=
  opening_of_ofUrl

/-- The file that an engine opens for the URL of a file is the one of the name in it, and it is
made if it is not there. -/
theorem Maker.OpensNamedFiles.target {make : Maker} (hmake : make.OpensNamedFiles)
    {scheme rest : Text} {e : Engine} {p : Path} {made : Bool} (h : IsFileScheme scheme)
    (he : make (fileUrl scheme rest) = .ok e) (hopening : e.opening = .target (.file p made))
    (huri : ¬ Engine.TakenForUri rest) :
    p = Path.ofText (Percent.decode (nameIn rest)) ∧ made = true := by
  rcases hmake h he huri with ⟨f, himpossible⟩ | htarget
  · cases himpossible.symm.trans hopening
  · have hnamed := Opening.target.inj (htarget.symm.trans hopening)
    unfold Target.named at hnamed
    split at hnamed
    · cases hnamed
    · cases hnamed
      exact ⟨rfl, rfl⟩

/-! ## The file that is looked for -/

namespace Location

variable {rest : Text}

theorem filePrefix_append (rest : Text) : filePrefix ++ rest = fileUrl "sqlite".toList rest := rfl

theorem file?_filePrefix_append (rest : Text) :
    file? (filePrefix ++ rest) =
      if nameIn rest = [] ∨ nameIn rest = memoryName then none
      else some (Path.ofText (nameIn rest)) := by
  unfold file?
  rw [Text.stripPrefix?_eq_some_iff.2 rfl]
  rfl

/-- No file is looked for exactly where a database in memory is named. -/
theorem file?_filePrefix_append_eq_none_iff :
    file? (filePrefix ++ rest) = none ↔ nameIn rest = [] ∨ nameIn rest = memoryName := by
  rw [file?_filePrefix_append]
  split
  · next h => exact iff_of_true rfl h
  · next h => exact iff_of_false (Option.some_ne_none _) h

/-- Behind the third slash stands the name of a file, and not that of a database in memory. -/
def NamesFile (rest : Text) : Prop := nameIn rest ≠ [] ∧ nameIn rest ≠ memoryName

theorem file?_of_dialect (h : NamesFile rest) :
    file? (fileUrl "sqlite".toList rest) = some (Path.ofText (nameIn rest)) := by
  rw [← filePrefix_append, file?_filePrefix_append]
  exact if_neg (not_or.2 h)

/-- Behind the longer scheme no file is looked for. -/
theorem file?_of_driver (rest : Text) : file? (fileUrl "sqlite+pysqlite".toList rest) = none := by
  rfl

end Location
end PlainSearch
