import LayoutParity.Text.Style

/-!
# Tables

A table of text cells framed by lines. Columns grow with their cells: a heading counts with its
UTF-8 bytes, a cell of a row with its visible characters. Setting the headings sets the widths and
the sides of all columns anew; a row may have more or fewer cells than there are headings.
-/

namespace LayoutParity

namespace Text

/-- As many spaces as asked for. -/
def spaces (count : Nat) : String :=
  String.ofList (List.replicate count ' ')

/-- The text filled up with spaces to a width, at the left end. -/
def atLeft (width : Nat) (text : String) : String :=
  text ++ spaces (width - text.length)

/-- The text filled up with spaces to a width, at the right end. -/
def atRight (width : Nat) (text : String) : String :=
  spaces (width - text.length) ++ text

end Text

/-- The end of its column that a cell stands at. -/
inductive Side where
  | left
  | right
deriving DecidableEq, Repr

/-- A table under construction. -/
structure Table where
  headers : List String
  rows : List (List String)
  widths : List Nat
  sides : List Side
  /-- Whether the headings are bold. -/
  color : Bool

namespace Table

/-- The table without cells. -/
def empty : Table := ⟨[], [], [], [], true⟩

/-- The table with other headings; its columns are as wide as these, and all at the left. -/
def withHeaders (table : Table) (headers : List String) : Table :=
  { table with
    headers
    widths := headers.map (·.utf8ByteSize)
    sides := headers.map fun _ => .left }

/-- Widths that also hold the cells of a row. -/
def widen : List Nat → List String → List Nat
  | width :: widths, cell :: cells => max width (Text.visibleLength cell) :: widen widths cells
  | [], cells => cells.map Text.visibleLength
  | widths, [] => widths

/-- The table with one more row. -/
def addRow (table : Table) (cells : List String) : Table :=
  { table with rows := table.rows ++ [cells], widths := widen table.widths cells }

/-- The table with a column at another side; a column without a heading has none. -/
def withSide (table : Table) (column : Nat) (side : Side) : Table :=
  { table with sides := table.sides.set column side }

/-- The table with colour on or off. -/
def withColor (table : Table) (color : Bool) : Table :=
  { table with color }

/-- The line between the parts of the table. -/
def rule (table : Table) : String :=
  "+" ++ "+".intercalate (table.widths.map fun width => String.ofList (.replicate (width + 2) '-'))
    ++ "+"

/-- A cell filled up to the width of its column. -/
def alignCell (table : Table) (column : Nat) (cell : String) : String :=
  let filler := Text.spaces (table.widths.getD column 0 - Text.visibleLength cell)
  match table.sides.getD column .left with
  | .left => cell ++ filler
  | .right => filler ++ cell

/-- The line of a row, with the cells bold or not. -/
def line (table : Table) (bold : Bool) (cells : List String) : String :=
  let parts := cells.mapIdx fun column cell =>
    s!" {Text.Style.bold.paint bold (table.alignCell column cell)} "
  "|" ++ "|".intercalate parts ++ "|"

/-- The lines of the table. -/
def lines (table : Table) : List String :=
  if table.headers.isEmpty && table.rows.isEmpty then []
  else
    let heading :=
      if table.headers.isEmpty then [] else [table.line table.color table.headers, table.rule]
    table.rule :: heading ++ table.rows.map (table.line false) ++ [table.rule]

/-- The text of the table, without a line end after the last line. -/
def text (table : Table) : String :=
  "\n".intercalate table.lines

/-- A table with headings has them between two rules, and its rows behind. -/
theorem lines_of_headers {table : Table} (h : table.headers ≠ []) :
    table.lines =
      [table.rule, table.line table.color table.headers, table.rule]
        ++ table.rows.map (table.line false) ++ [table.rule] := by
  have hsome : table.headers.isEmpty = false := by simpa using h
  simp [lines, hsome]

end Table

end LayoutParity
