-- Tables on a terminal. Every column is as wide as its widest cell, a blank stands at either side
-- of each cell, and a line parts one section of rows from the next.
import PinGate.Terminal.CellWidth

namespace PinGate.Terminal

open Text

/-- A table: a title over it, names over its columns, and sections of rows. -/
structure Table where
  title : Text
  columns : List Text
  sections : List (List (List Text))
  deriving Repr, DecidableEq

/-- The characters of a line across a table: at its left end, along it, where it meets a line
between two columns, and at its right end. -/
structure Rule where
  left : Char
  along : Char
  between : Char
  right : Char
  deriving Repr, DecidableEq

namespace Rule

/-- The rule over the names of the columns. -/
def top : Rule := ⟨'┏', '━', '┳', '┓'⟩

/-- The rule under the names of the columns. -/
def underHead : Rule := ⟨'┡', '━', '╇', '┩'⟩

/-- The rule between two sections. -/
def inside : Rule := ⟨'├', '─', '┼', '┤'⟩

/-- The rule under the last section. -/
def bottom : Rule := ⟨'└', '─', '┴', '┘'⟩

/-- The rule across columns of some widths. -/
def render (r : Rule) (widths : List Nat) : Text :=
  r.left :: [r.between].intercalate (widths.map fun w => List.replicate (w + 2) r.along) ++
    [r.right, '\n']

end Rule

namespace Table

/-- A text with blanks behind it up to a width. -/
def padRight (n : Nat) (s : Text) : Text := s ++ List.replicate (n - width s) ' '

/-- A text in the middle of a width; of an odd number of blanks, the larger part stands behind. -/
def centred (n : Nat) (s : Text) : Text :=
  let spare := n - width s
  List.replicate (spare / 2) ' ' ++ s ++ List.replicate (spare - spare / 2) ' '

/-- A row between bars. -/
def row (bar : Char) (widths : List Nat) (cells : List Text) : Text :=
  bar :: [bar].intercalate (List.zipWith (fun w c => ' ' :: padRight w c ++ [' ']) widths cells) ++
    [bar, '\n']

/-- All rows, that of the names first. -/
def rows (t : Table) : List (List Text) := t.columns :: t.sections.flatten

/-- The width of each column. -/
def widths (t : Table) : List Nat :=
  (List.range t.columns.length).map fun i =>
    ((t.rows.map fun cells => width (cells.getD i [])).max?).getD 0

/-- The width of the whole. -/
def totalWidth (t : Table) : Nat := t.widths.foldr (fun w n => w + 3 + n) 1

/-- The table as it is shown. -/
def render (t : Table) : Text :=
  let widths := t.widths
  let sections := t.sections.map fun rows => rows.flatMap (row '│' widths)
  centred t.totalWidth t.title ++ '\n' :: Rule.top.render widths ++ row '┃' widths t.columns ++
    Rule.underHead.render widths ++ (Rule.inside.render widths).intercalate sections ++
    Rule.bottom.render widths

end Table

end PinGate.Terminal
