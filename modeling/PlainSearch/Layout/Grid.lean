/-
  Layout/Grid.lean --- tables and panels drawn with lines.

  WHAT THIS FILE IS FOR.  On a screen a table is a grid: a heavy frame around the
  names of the columns, a light one around the rows.  A column is as wide as the
  widest line in it, at most as wide as the grid allows, and every cell has a
  blank on either side.  In a row of several lines a cell stands at the top, and
  the name of a column at the bottom.  A panel is a single cell as wide as the
  screen, with a title in its upper edge.
-/
import PlainSearch.Layout.Lines

set_option autoImplicit false

namespace PlainSearch.Layout

/-- A table to be drawn. -/
structure Grid where
  title : Option Text := none
  header : List Text
  rows : List (List Text)
  /-- how wide the text in a column may be -/
  most : Nat := screenWidth
  deriving Repr

namespace Grid

/-- A character that ends a line of a cell, as far as its width goes. -/
def endsLine (c : Char) : Bool := [10, 28, 29, 30, 133, 8232, 8233].contains c.toNat

/-- The width of a cell: of its widest line, tabs not counted. -/
def cellWidth (cell : Text) : Nat :=
  let marked := (cell.filter fun c => !isHidden c).map fun c => if endsLine c then '\n' else c
  ((Text.splitOn '\n' marked).map columns).foldl max 0

/-- The width of the text in the column at a place. -/
def columnWidth (g : Grid) (i : Nat) : Nat :=
  min g.most (((g.header :: g.rows).map fun row => cellWidth (row[i]?.getD [])).foldl max 0)

/-- The widths of the columns. -/
def widths (g : Grid) : List Nat := (List.range g.header.length).map g.columnWidth

/-- The width of the whole grid. -/
def width (g : Grid) : Nat := g.widths.foldl (fun n w => n + w + 3) 1

/-- A line across the grid: its left end, its filling, its crossings and its right end. -/
def rule (widths : List Nat) (left filling crossing right : Char) : Text :=
  left :: Text.joinWith [crossing] (widths.map fun w => List.replicate (w + 2) filling) ++ [right]

/-- Where a cell stands that has fewer lines than its row. -/
inductive Alignment where
  | top
  | bottom
  deriving DecidableEq, Repr

/-- Lines of a cell in a row of a height, with empty ones for those that it lacks. -/
def inHeight (a : Alignment) (height : Nat) (lines : List Text) : List Text :=
  let missing : List Text := List.replicate (height - lines.length) []
  match a with
  | .top => lines ++ missing
  | .bottom => missing ++ lines

/-- A row of cells, in as many lines as its highest cell takes, with `edge` around each cell. -/
def rowLines (widths : List Nat) (a : Alignment) (edge : Char) (cells : List Text) : List Text :=
  let wrapped := (widths.zip cells).map fun p => (p.1, wrap .dotted p.1 p.2)
  let height := (wrapped.map fun p => p.2.length).foldl max 0
  let even := wrapped.map fun p => (p.1, inHeight a height p.2)
  (List.range height).map fun i =>
    edge :: Text.joinWith [edge] (even.map fun p =>
      ' ' :: padTo p.1 ' ' (p.2[i]?.getD []) ++ [' ']) ++ [edge]

/-- The title, in the middle of the grid's width. -/
def titleLines (g : Grid) : List Text :=
  match g.title with
  | none => []
  | some t => (wrap .folded g.width t).map fun line => centred g.width (trimEnd line)

/-- A grid in lines; one without columns is an empty line. -/
def lines (g : Grid) : List Text :=
  let ws := g.widths
  if ws = [] then [[]]
  else
    g.titleLines ++ [rule ws '┏' '━' '┳' '┓'] ++ rowLines ws .bottom '┃' g.header
      ++ [rule ws '┡' '━' '╇' '┩'] ++ g.rows.flatMap (rowLines ws .top '│')
      ++ [rule ws '└' '─' '┴' '┘']

end Grid

/-- A text in a frame as wide as the screen, with a title in the upper edge. -/
def panel (title t : Text) : List Text :=
  let inner := screenWidth - 2
  let name := ' ' :: title ++ [' ']
  let before := (inner - columns name) / 2
  let bar (n : Nat) : Text := List.replicate n '─'
  ['╭' :: bar before ++ name ++ bar (inner - before - columns name) ++ ['╮']]
    ++ (wrap .folded (inner - 2) t).map (fun line => '│' :: ' ' :: padTo (inner - 2) ' ' line
      ++ [' ', '│'])
    ++ ['╰' :: bar inner ++ ['╯']]

end PlainSearch.Layout
