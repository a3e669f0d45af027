/-
  Proofs/Location/Path.lean --- a path is read back from its text.

  WHAT THIS FILE IS FOR.  The names of a path that a text stands for are neither empty nor
  points, and have no slashes (`Path.IsNormal`).  Such a path is read back from its text,

      ofText p.text  =  p                                 (`Path.ofText_text`),

  and the path with a home directory in place of a tilde is one as well
  (`Path.isNormal_of_expandHome`).

  BEHIND A URL.  From the URL of a file its path is taken up to a question mark, and the name
  of a database in memory is passed over.  So a normal path is found behind the URL that is
  made of its text exactly if there is no question mark in the text and it is not that name
  (`Location.file?_text_eq_self_iff`).
-/
import PlainSearch.Proofs.Location.Engine

set_option autoImplicit false

namespace PlainSearch

/-! ## Pieces of a text -/

namespace Text

variable {c : Char} {t : Text}

theorem splitOn_eq_listSplitOn (c : Char) (t : Text) : splitOn c t = List.splitOn c t := by
  induction t with
  | nil => rw [splitOn, List.splitOn_nil]
  | cons a t ih =>
    rw [splitOn, List.splitOn_cons_eq_if_modifyHead, ← ih]
    obtain ⟨p, ps, hpieces⟩ := List.exists_cons_of_ne_nil (splitOn_ne_nil c t)
    simp only [hpieces, List.modifyHead_cons, beq_iff_eq]

theorem joinWith_eq_intercalate (sep : Text) (ts : List Text) :
    joinWith sep ts = sep.intercalate ts := by
  induction ts using joinWith.induct with
  | case1 => rfl
  | case2 t => rw [joinWith, List.intercalate_singleton]
  | case3 t u ts ih => rw [joinWith, List.intercalate_cons_cons, ih]

/-- Texts without the separator are the pieces of what they are joined to. -/
theorem splitOn_joinWith {ts : List Text} (hfree : ∀ t ∈ ts, c ∉ t) (hne : ts ≠ []) :
    splitOn c (joinWith [c] ts) = ts := by
  rw [splitOn_eq_listSplitOn, joinWith_eq_intercalate]
  exact List.splitOn_intercalate c hfree hne

theorem not_mem_of_mem_splitOn {p : Text} (h : p ∈ splitOn c t) : c ∉ p := by
  induction t generalizing p with
  | nil =>
    rw [splitOn, List.mem_singleton] at h
    rw [h]
    exact List.not_mem_nil
  | cons a t ih =>
    obtain ⟨q, qs, hpieces⟩ := List.exists_cons_of_ne_nil (splitOn_ne_nil c t)
    rw [hpieces] at ih
    rw [splitOn] at h
    split at h
    · rcases List.mem_cons.1 h with rfl | h
      · exact List.not_mem_nil
      · exact ih (hpieces ▸ h)
    · next hne =>
      simp only [hpieces] at h
      rcases List.mem_cons.1 h with rfl | h
      · exact List.not_mem_cons_of_ne_of_not_mem (Ne.symm hne) (ih List.mem_cons_self)
      · exact ih (List.mem_cons_of_mem q h)

theorem mem_joinWith {sep : Text} {ts : List Text} (h : c ∈ joinWith sep ts) :
    c ∈ sep ∨ ∃ u ∈ ts, c ∈ u := by
  cases ts with
  | nil => cases h
  | cons u us =>
    rw [joinWith_cons, List.mem_append, List.mem_flatMap] at h
    rcases h with h | ⟨v, hv, h⟩
    · exact .inr ⟨u, List.mem_cons_self, h⟩
    · rcases List.mem_append.1 h with h | h
      · exact .inl h
      · exact .inr ⟨v, List.mem_cons_of_mem u hv, h⟩

theorem mem_of_mem_splitOn {a : Char} {p : Text} (hp : p ∈ splitOn c t) (ha : a ∈ p) :
    a ∈ t := by
  rw [← joinWith_splitOn c t]
  obtain ⟨front, back, hpieces⟩ := List.append_of_mem hp
  cases front with
  | nil =>
    rw [hpieces, List.nil_append, joinWith_cons]
    exact List.mem_append_left _ ha
  | cons u us =>
    rw [hpieces, List.cons_append, joinWith_cons, List.mem_append, List.mem_flatMap]
    exact .inr ⟨p, List.mem_append_right us List.mem_cons_self, List.mem_append_right [c] ha⟩

end Text

/-! ## Normal paths -/

namespace Path

variable {p q : Path} {t : Text}

/-- Every name of a path leads somewhere and is one name. -/
def IsNormal (p : Path) : Prop := ∀ n ∈ p.names, isName n = true ∧ '/' ∉ n

theorem isNormal_ofText (t : Text) : (ofText t).IsNormal := by
  intro n hn
  obtain ⟨hpiece, hname⟩ := List.mem_filter.1 hn
  exact ⟨hname, Text.not_mem_of_mem_splitOn hpiece⟩

theorem isNormal_of_expandHome {homes : Homes} (hp : p.IsNormal)
    (h : p.expandHome homes = .ok q) : q.IsNormal := by
  unfold expandHome at h
  split at h
  · next user rest hroot hnames =>
    split at h
    · cases h
    · cases h
    · next home _ _ =>
      cases h
      intro n hn
      rcases List.mem_append.1 hn with hn | hn
      · exact isNormal_ofText home n hn
      · exact hp n (hnames ▸ List.mem_cons_of_mem _ hn)
  · cases h
    exact hp

/-! ## The text of a path -/

theorem text_ne_nil (p : Path) : p.text ≠ [] := by
  unfold text
  split
  · exact List.cons_ne_nil _ _
  · next hne => exact hne

theorem text_of_names_cons {n : Text} {ns : List Text} (r : Root) (h : n ≠ []) :
    text ⟨r, n :: ns⟩ = r.text ++ Text.joinWith ['/'] (n :: ns) := by
  unfold text
  split
  · next hnil =>
    rw [List.append_eq_nil_iff, Text.joinWith_cons, List.append_eq_nil_iff] at hnil
    exact absurd hnil.2.1 h
  · rfl

/-- What stands in the text of a path. -/
theorem mem_text {c : Char} (h : c ∈ p.text) : c = '/' ∨ c = '.' ∨ ∃ n ∈ p.names, c ∈ n := by
  unfold text at h
  split at h
  · exact .inr (.inl (List.mem_singleton.1 h))
  · rcases List.mem_append.1 h with h | h
    · cases hroot : p.root <;> simp_all [Root.text]
    · rcases Text.mem_joinWith h with h | h
      · exact .inl (List.mem_singleton.1 h)
      · exact .inr (.inr h)

/-- The slashes of a root are read as that root where a name follows. -/
theorem rootOf_text_append {c : Char} (r : Root) (t : Text) (h : c ≠ '/') :
    rootOf (r.text ++ c :: t) = r := by
  cases r <;> simp [Root.text, rootOf, h]

theorem names_text_append (r : Root) (t : Text) :
    (Text.splitOn '/' (r.text ++ t)).filter isName = (Text.splitOn '/' t).filter isName := by
  cases r <;> rfl

/-- A normal path is what its text stands for. -/
theorem ofText_text (h : p.IsNormal) : ofText p.text = p := by
  obtain ⟨r, names⟩ := p
  cases names with
  | nil => cases r <;> rfl
  | cons n ns =>
    obtain ⟨hname, hslash⟩ := h n List.mem_cons_self
    cases n with
    | nil => cases hname
    | cons c n =>
      have hfirst : c ≠ '/' := fun hc => hslash (hc ▸ List.mem_cons_self)
      have hnames : (Text.splitOn '/' (Text.joinWith ['/'] ((c :: n) :: ns))).filter isName
          = (c :: n) :: ns := by
        rw [Text.splitOn_joinWith (fun m hm => (h m hm).2) (List.cons_ne_nil _ _)]
        exact List.filter_eq_self.2 fun m hm => (h m hm).1
      rw [text_of_names_cons r (List.cons_ne_nil c n)]
      unfold ofText
      rw [names_text_append, hnames, Text.joinWith_cons, List.cons_append,
        rootOf_text_append r _ hfirst]

/-- In the text of the path that a text stands for, all but slashes and points comes from the
text. -/
theorem mem_of_mem_text_ofText {c : Char} (h : c ∈ (ofText t).text) (hslash : c ≠ '/')
    (hpoint : c ≠ '.') : c ∈ t := by
  rcases mem_text h with h | h | ⟨n, hn, h⟩
  · exact absurd h hslash
  · exact absurd h hpoint
  · exact Text.mem_of_mem_splitOn (List.mem_filter.1 hn).1 h

end Path

/-! ## Behind a URL -/

namespace Location

variable {q : Path}

/-- A normal path is found behind the URL of its text exactly if the text has no question mark
and is not the name of a database in memory. -/
theorem file?_text_eq_self_iff (hq : q.IsNormal) :
    file? (filePrefix ++ q.text) = some q ↔ '?' ∉ q.text ∧ q.text ≠ memoryName := by
  rw [file?_filePrefix_append]
  constructor
  · intro h
    split at h
    · cases h
    · next hnamed =>
      have hpath : Path.ofText (nameIn q.text) = q := Option.some.inj h
      have hmark : '?' ∉ q.text := by
        intro hmem
        rw [← hpath] at hmem
        exact mark_not_mem_nameIn _ (Path.mem_of_mem_text_ofText hmem (by decide) (by decide))
      rw [nameIn_eq_self_iff.2 hmark] at hnamed
      exact ⟨hmark, fun hmemory => hnamed (.inr hmemory)⟩
  · rintro ⟨hmark, hmemory⟩
    rw [nameIn_eq_self_iff.2 hmark, if_neg (not_or.2 ⟨q.text_ne_nil, hmemory⟩),
      Path.ofText_text hq]

end Location
end PlainSearch
