/-
  Proofs/Request/Reference.lean --- the names in a statement, and how they are read.

  WHAT THIS FILE IS FOR.  A statement names the companion that it searches, twice, and
  in each of its parts a column of the table.  Taken apart into words and names, a
  statement is the text of its `Piece`s, and each name stands in front of a blank.

  WHAT BECOMES OF THE NAMES.  A statement has its names as they are.  So a name is read
  as itself exactly if it needs no quotes: if it is a run of letters, digits,
  underscores and dollar signs that begins with neither a digit nor a dollar sign and
  is no keyword (`references_read_iff`).  Discovery reads names through
  `Sql.identifier`, so a catalog has others too.  Quoted where that is needed, as
  `Sql.reference` has it, each of them would be read as itself.
-/
import PlainSearch.Proofs.Request.Statement
import PlainSearch.Proofs.Sql.Identifier

set_option autoImplicit false

namespace PlainSearch

/-! ## Pieces -/

/-- A piece of a statement. -/
inductive Piece where
  /-- words of the language, values, and the blanks around them -/
  | word (t : Text)
  | name (n : Text)

namespace Piece

/-- A piece as it stands in a statement. -/
def text : Piece → Text
  | .word t => t
  | .name n => n

/-- The text of pieces. -/
def textOf (ps : List Piece) : Text := ps.flatMap text

/-- The names among pieces, each with what follows it. -/
def references : List Piece → List (Text × Text)
  | [] => []
  | .word _ :: ps => references ps
  | .name n :: ps => (n, textOf ps) :: references ps

theorem textOf_append (ps qs : List Piece) : textOf (ps ++ qs) = textOf ps ++ textOf qs :=
  List.flatMap_append

theorem references_append (ps qs : List Piece) :
    references (ps ++ qs)
      = (references ps).map (fun r => (r.1, r.2 ++ textOf qs)) ++ references qs := by
  induction ps with
  | nil => rfl
  | cons x ps ih =>
    cases x with
    | word t => exact ih
    | name n =>
      rw [List.cons_append, references, references, ih, textOf_append]
      rfl

/-- A reference stands in the statement, with what follows it behind it. -/
theorem isSuffix_of_mem_references {ps : List Piece} {r : Text × Text} (h : r ∈ references ps) :
    r.1 ++ r.2 <:+ textOf ps := by
  induction ps with
  | nil => cases h
  | cons x ps ih =>
    cases x with
    | word t => exact (ih h).trans (List.suffix_append t _)
    | name n =>
      rcases List.mem_cons.1 h with rfl | h
      · exact List.suffix_refl _
      · exact (ih h).trans (List.suffix_append n _)

/-- There is a blank behind every name. -/
def IsSpaced (ps : List Piece) : Prop := ∀ r ∈ references ps, r.2.head? = some ' '

theorem isSpaced_append {ps qs : List Piece} (hps : IsSpaced ps) (hqs : IsSpaced qs) :
    IsSpaced (ps ++ qs) := by
  intro r hr
  rw [references_append, List.mem_append, List.mem_map] at hr
  rcases hr with ⟨s, hs, rfl⟩ | hr
  · rw [List.head?_append, hps s hs, Option.some_or]
  · exact hqs r hr

end Piece

open Piece (textOf references IsSpaced)

/-! ## Parts -/

namespace Part

/-- The column that a part names. -/
def column? : Part → Option Text
  | .since c _ => some c
  | .before c _ => some c
  | .below c _ => some c
  | .above c _ => some c
  | .key c _ => some c
  | .newest c => some c
  | .oldest c => some c
  | .limit _ => none

/-- The pieces of a part. -/
def pieces : Part → List Piece
  | .since c y =>
    [.word " AND ".toList, .name c, .word (" >= '".toList ++ y ++ "-01-01'".toList)]
  | .before c y => [.word " AND ".toList, .name c, .word (" < '".toList ++ y ++ "-01-01'".toList)]
  | .below c n => [.word " AND ".toList, .name c, .word (" < ".toList ++ n)]
  | .above c n => [.word " AND ".toList, .name c, .word (" > ".toList ++ n)]
  | .key c k => [.word " AND ".toList, .name c, .word (" = ".toList ++ k)]
  | .newest c => [.word " ORDER BY ".toList, .name c, .word " DESC".toList]
  | .oldest c => [.word " ORDER BY ".toList, .name c, .word " ASC".toList]
  | .limit n => [.word (" LIMIT ".toList ++ Text.ofNat n)]

theorem textOf_pieces (x : Part) : textOf x.pieces = x.text := by
  cases x <;> simp [pieces, text, textOf, Piece.text]

theorem references_pieces (x : Part) : (references x.pieces).map Prod.fst = x.column?.toList := by
  cases x <;> rfl

theorem isSpaced_pieces (x : Part) : IsSpaced x.pieces := by
  intro r hr
  cases x with
  | limit n => cases hr
  | _ =>
    cases List.mem_singleton.1 hr
    rfl

/-- A part that fits names a column of the table, or the number of the row. -/
theorem column_of_fits {p : Plan} {x : Part} {n : Text} (hx : x.Fits p)
    (hn : x.column? = some n) :
    n = "rowid".toList ∨ ∃ c ∈ p.target.columns, c.name = n := by
  have hfirst : ∀ {types : List ColumnType}, p.target.IsFirstOf types n →
      ∃ c ∈ p.target.columns, c.name = n := by
    rintro types ⟨front, c, back, hcolumns, hname, -⟩
    refine ⟨c, ?_, hname⟩
    rw [hcolumns]
    exact List.mem_append_right _ List.mem_cons_self
  cases x with
  | limit k => cases hn
  | key c k =>
    cases hn
    rcases hx.1 with ⟨rfl, c, hc, hname, -⟩ | ⟨hrowid, -⟩
    · exact .inr ⟨c, hc, hname⟩
    · exact .inl hrowid
  | newest c =>
    cases hn
    exact .inr (hfirst hx)
  | oldest c =>
    cases hn
    exact .inr (hfirst hx)
  | _ =>
    cases hn
    exact .inr (hfirst hx.1)

theorem textOf_flatMap_pieces (xs : List Part) :
    textOf (xs.flatMap pieces) = xs.flatMap text := by
  induction xs with
  | nil => rfl
  | cons x xs ih =>
    rw [List.flatMap_cons, List.flatMap_cons, Piece.textOf_append, textOf_pieces, ih]

theorem references_flatMap_pieces (xs : List Part) :
    (references (xs.flatMap pieces)).map Prod.fst = xs.filterMap column? := by
  induction xs with
  | nil => rfl
  | cons x xs ih =>
    rw [List.flatMap_cons, Piece.references_append, List.map_append, ih, List.map_map]
    show (references x.pieces).map Prod.fst ++ _ = _
    rw [references_pieces, List.filterMap_cons]
    cases x.column? <;> rfl

theorem isSpaced_flatMap_pieces (xs : List Part) : IsSpaced (xs.flatMap pieces) := by
  induction xs with
  | nil =>
    intro r hr
    cases hr
  | cons x xs ih =>
    rw [List.flatMap_cons]
    exact Piece.isSpaced_append (isSpaced_pieces x) ih

end Part

/-! ## Statements -/

/-- The pieces of the statement of a plan, with the parts of its tail. -/
def Plan.pieces (settings : Settings) (p : Plan) (parts : List Part) : List Piece :=
  [.word "SELECT rowid, * FROM ".toList, .name (p.target.companion settings.suffix),
    .word " WHERE ".toList, .name (p.target.companion settings.suffix),
    .word (" MATCH '".toList ++ Sql.literalBody p.expression ++ ['\''])]
    ++ parts.flatMap Part.pieces

namespace Plan

theorem textOf_pieces (settings : Settings) (p : Plan) (parts : List Part) :
    textOf (p.pieces settings parts) = Request.searchFront settings p
      ++ Sql.literalBody p.expression ++ '\'' :: parts.flatMap Part.text := by
  unfold pieces Request.searchFront
  rw [Piece.textOf_append, Part.textOf_flatMap_pieces]
  simp [textOf, Piece.text]

theorem references_pieces (settings : Settings) (p : Plan) (parts : List Part) :
    (references (p.pieces settings parts)).map Prod.fst
      = p.target.companion settings.suffix :: p.target.companion settings.suffix
        :: parts.filterMap Part.column? := by
  rw [← Part.references_flatMap_pieces]
  rfl

theorem isSpaced_pieces (settings : Settings) (p : Plan) (parts : List Part) :
    IsSpaced (p.pieces settings parts) := by
  apply Piece.isSpaced_append ?_ (Part.isSpaced_flatMap_pieces parts)
  intro r hr
  rcases List.mem_cons.1 hr with rfl | hr
  · rfl
  · cases List.mem_singleton.1 hr
    rfl

end Plan

namespace Request

/-- A statement names its companion twice and then columns of the table.  A name is read as itself
exactly if it needs no quotes; written with quotes where they are needed, it always would be. -/
theorem references_read_iff {settings : Settings} {catalog : Catalog} {raw sql : Text}
    (h : (statement? settings catalog raw).outcome = .ok (some sql)) :
    ∃ (p : Plan) (parts : List Part),
      (plan settings catalog raw).outcome = .ok (some p) ∧
      sql = textOf (p.pieces settings parts) ∧
      (references (p.pieces settings parts)).map Prod.fst
        = p.target.companion settings.suffix :: p.target.companion settings.suffix
          :: parts.filterMap Part.column? ∧
      (∀ n ∈ parts.filterMap Part.column?,
        n = "rowid".toList ∨ ∃ c ∈ p.target.columns, c.name = n) ∧
      ∀ r ∈ references (p.pieces settings parts),
        r.1 ++ r.2 <:+ sql ∧
        (Sql.readName (r.1 ++ r.2) = some r ↔ Sql.isPlain r.1 = true) ∧
        Sql.readName (Sql.reference r.1 ++ r.2) = some r := by
  obtain ⟨p, hplan, rfl⟩ := statement?_eq_some_iff.1 h
  obtain ⟨t, ⟨parts, hparts, rfl⟩, hstatement⟩ := exists_tail hplan
  rw [← Plan.textOf_pieces] at hstatement
  refine ⟨p, parts, hplan, hstatement, Plan.references_pieces settings p parts, ?_, ?_⟩
  · intro n hn
    obtain ⟨x, hx, hcolumn⟩ := List.mem_filterMap.1 hn
    exact Part.column_of_fits (hparts.fits x hx) hcolumn
  · intro r hr
    have hblank := Plan.isSpaced_pieces settings p parts r hr
    refine ⟨?_, Sql.readName_append_iff hblank, Sql.readName_reference_append r.1 hblank⟩
    rw [hstatement]
    exact Piece.isSuffix_of_mem_references hr

/-- A companion with a blank in its name is not read as itself, and with quotes it is. -/
theorem references_read_iff_blank :
    ∃ rest, "my books_fts".toList ++ rest
        <:+ "SELECT rowid, * FROM my books_fts WHERE my books_fts MATCH 'whales' LIMIT 3".toList ∧
      Sql.readName ("my books_fts".toList ++ rest) ≠ some ("my books_fts".toList, rest) ∧
      Sql.readName (Sql.reference "my books_fts".toList ++ rest)
        = some ("my books_fts".toList, rest) := by
  have hplan : (plan {} ⟨[⟨"my books".toList, []⟩]⟩ "top 3 my books about whales".toList).outcome
      = .ok (some {
        target := ⟨"my books".toList, []⟩
        expression := "whales".toList
        limit := some 3 }) := rfl
  have hstatement : (statement? {} ⟨[⟨"my books".toList, []⟩]⟩
      "top 3 my books about whales".toList).outcome = .ok (some
        "SELECT rowid, * FROM my books_fts WHERE my books_fts MATCH 'whales' LIMIT 3".toList) :=
    statement?_eq_some_iff.2 ⟨_, hplan, rfl⟩
  obtain ⟨p, parts, hp, -, -, -, hread⟩ := references_read_iff hstatement
  cases hplan.symm.trans hp
  have hplain : ¬ Sql.isPlain "my books_fts".toList = true := by decide
  obtain ⟨hsuffix, hiff, hquoted⟩ := hread ("my books_fts".toList, _) List.mem_cons_self
  exact ⟨_, hsuffix, fun h => hplain (hiff.1 h), hquoted⟩

end Request
end PlainSearch
