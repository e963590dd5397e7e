import PoolLogin.Console.Piece
import PoolLogin.Console.Wrap
import PoolLogin.Decimal.Binary

/-!
Tables with a title, a heavy head and one column per heading. A column is as wide as its widest
cell; when the table would not fit on the console, its widest columns give way first.
-/

namespace PoolLogin.Console

/-- A table of texts. -/
structure Table where
  title : Text
  headings : List Text
  rows : List (List Text)
  deriving Repr

namespace Table

/-- The cells that the borders of a table with `columns` columns take. -/
def borderWidth (columns : Nat) : Nat := columns + 1

def sum (widths : List Nat) : Nat := widths.foldl (· + ·) 0

/-- The cells of the widest line of a text, whatever ends its lines. -/
def textWidth (text : Text) : Nat := ((Text.unicodeLines text).map Text.cells).foldl max 0

/-- Take `total` cells away from columns, evenly, but from each at most the number that stands beside
its width. Columns with a zero there keep their width. -/
def reduce (total : Nat) : List (Nat × Nat) → List Nat
  | [] => []
  | (width, most) :: rest =>
    if most = 0 then width :: reduce total rest
    else
      let share := min most (roundQuotient total (1 + rest.countP (·.2 != 0)))
      (width - share) :: reduce (total - share) rest

/-- Reduce the widest columns to the width of the next, as long as the table is too wide. -/
def collapse (limit : Nat) : (fuel : Nat) → List Nat → List Nat
  | 0, widths => widths
  | fuel + 1, widths =>
    let excess := sum widths - limit
    let widest := widths.foldl max 0
    let second := (widths.filter (· != widest)).foldl max 0
    if excess = 0 ∨ widest = second then widths
    else
      let most := min excess (widest - second)
      collapse limit fuel (reduce excess (widths.map fun w => (w, if w = widest then most else 0)))

/-- The widths of columns, given those of their widest cells. -/
def columnWidths (limit : Nat) (natural : List Nat) : List Nat :=
  let natural := natural.map (min limit)
  if sum natural ≤ limit then natural
  else
    let widths := collapse limit (natural.length + 1) natural
    let widths := reduce (sum widths - limit) (widths.map fun w => (w, w))
    natural.zipWith min widths

/-- A text with blanks at its end up to a width. -/
def padTo (width : Nat) (line : Text) : Text :=
  line ++ List.replicate (width - Text.cells line) ' '

/-- The line of a cell in a column, with a blank on each side. A line is filled up or cut to the
width of the column, and what it takes is measured again whenever something is put beside it. -/
def cellLine (width : Nat) (line : Text) : Except Text.CutFault Text := do
  let inner := width - 2
  let line ←
    if inner < Text.cells line then fit .ellipsis inner line else pure (padTo inner line)
  let pieces ← shape inner [← fit .ellipsis inner line]
  let pieces ← shape width ([' '] :: (pieces ++ [[' ']]))
  return (← shape width pieces).flatten

/-- The lines of a cell in a column. -/
def cellLines (width : Nat) (text : Text) : Except Text.CutFault (List Text) :=
  (brokenLines .ellipsis (width - 2) text).mapM (cellLine width)

def rule (left middle right line : Char) (widths : List Nat) : Text :=
  left :: (Text.joinWith [middle] (widths.map fun w => List.replicate w line) ++ [right])

/-- The lines of a row, whose cells are as high as the highest of them. -/
def rowLines (bar : Char) (widths : List Nat) (row : List Text) :
    Except Text.CutFault (List Text) := do
  let cells ← (widths.zip row).mapM fun (width, text) => do
    return (width, ← cellLines width text)
  let height := (cells.map fun cell => cell.2.length).foldl max 0
  return (List.range height).map fun n =>
    bar :: (Text.joinWith [bar] (cells.map fun (width, lines) =>
      lines[n]?.getD (List.replicate width ' ')) ++ [bar])

/-- A text in the middle of a number of cells. -/
def centred (width : Nat) (text : Text) : Text :=
  let left := (width - Text.cells text) / 2
  padTo width (List.replicate left ' ' ++ text)

def lines (table : Table) : Except Text.CutFault (List Text) := do
  let headings := table.headings.map dropControls
  let rows := table.rows.map fun row => row.map dropControls
  let natural := (List.range headings.length).map fun n =>
    ((headings :: rows).map fun row => textWidth (row[n]?.getD []) + 2).foldl max 0
  let widths := columnWidths (lineWidth - borderWidth headings.length) natural
  let head ← rowLines '┃' widths headings
  let body ← rows.mapM (rowLines '│' widths)
  return [centred (sum widths + borderWidth headings.length) table.title,
      rule '┏' '┳' '┓' '━' widths] ++
    head ++ [rule '┡' '╇' '┩' '━' widths] ++ body.flatten ++ [rule '└' '┴' '┘' '─' widths]

def print (table : Table) : Except Text.CutFault Text :=
  table.lines.map fun lines => lines.flatMap (· ++ ['\n'])

end Table

end PoolLogin.Console
