/-
  Settings.lean --- what a user can set, in values and in the environment.

  WHAT THIS FILE IS FOR.  Three settings govern discovery and the reading of
  requests.  That the suffix has a character and that at least one value is
  sampled are part of the type: no other settings exist.

  Two of them can be given by the environment, the suffix and the sample size.  A
  variable that is empty counts as not given.
-/
import PlainSearch.Location.Url
import PlainSearch.Validation.Basic

set_option autoImplicit false

namespace PlainSearch

open Checked

/-- The settings of discovery and of the reading of requests. -/
structure Settings where
  /-- what the name of a companion adds to that of its table -/
  suffix : Text := "_fts".toList
  sampleSize : Nat := 10
  /-- the words that introduce search terms, by priority -/
  markers : List Text :=
    ["containing".toList, "named".toList, "called".toList, "with".toList, "matching".toList,
      "about".toList]
  suffix_ne_nil : suffix ≠ [] := by decide
  one_le_sampleSize : 1 ≤ sampleSize := by decide
  deriving DecidableEq, Repr

/-! ## Settings as values -/

/-- A text with at least one character. -/
def checkSuffix (v : Datum) : Checked { t : Text // t ≠ [] } :=
  match Datum.checkText v with
  | .error ps => .error ps
  | .ok t => if h : t ≠ [] then .ok ⟨t, h⟩ else defect .emptyText

/-- A positive integer. -/
def checkPositive (v : Datum) : Checked { n : Nat // 1 ≤ n } :=
  match Datum.checkInteger v with
  | .error ps => .error ps
  | .ok n =>
    if h : 1 ≤ n.toNat then .ok ⟨n.toNat, h⟩ else defect .notPositive

/-- Settings. -/
def Settings.check : Datum → Checked Settings :=
  Datum.checkModel "NLFTSConfig".toList fun fs =>
    let standard : Settings := {}
    (both
      (optional fs "mirror_suffix".toList ⟨standard.suffix, standard.suffix_ne_nil⟩ checkSuffix)
      (both
        (optional fs "sample_size".toList ⟨standard.sampleSize, standard.one_le_sampleSize⟩
          checkPositive)
        (optional fs "markers".toList standard.markers
          (Datum.checkFixedList Datum.checkText)))).map fun p => {
            suffix := p.1.val
            sampleSize := p.2.1.val
            markers := p.2.2
            suffix_ne_nil := p.1.property
            one_le_sampleSize := p.2.1.property }

/-- Settings as a value. -/
def Settings.toDatum (s : Settings) : Datum :=
  .record [("mirror_suffix".toList, .text s.suffix),
    ("sample_size".toList, .int s.sampleSize), ("markers".toList, .list (s.markers.map .text))]

/-! ## Settings from the environment -/

namespace Settings

/-- The environment variable of the suffix. -/
def suffixVariable : Text := "NLFTS_MIRROR_SUFFIX".toList

/-- The environment variable of the sample size. -/
def sampleSizeVariable : Text := "NLFTS_SAMPLE_SIZE".toList

/-- A field for a setting that is given, and none for one that is not. -/
def given (name : Text) (value : Option Text) : Fields :=
  value.toList.map fun t => (name, .text t)

/-- The settings that an environment gives. -/
def ofEnvironment (env : Location.Environment) : Checked Settings :=
  Settings.check (.record
    (given "mirror_suffix".toList (Location.given? (env suffixVariable))
      ++ given "sample_size".toList (Location.given? (env sampleSizeVariable))))

end Settings
end PlainSearch
