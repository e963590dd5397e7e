import PoolLogin.Text.Basic

/-!
Comma-separated records. A cell is quoted only where it has to be; a quoted cell may hold any
character, line ends included, and a quote inside it is written twice. Every record ends in a
carriage return and a line feed. Records are read one character after another.
-/

namespace PoolLogin.Csv

/-! ### Writing -/

/-- The characters that a cell can hold only between quotes. -/
def isSpecial (c : Char) : Bool := c == ',' || c == '"' || c == '\r' || c == '\n'

def quoteChar (c : Char) : Text := if c = '"' then ['"', '"'] else [c]

def quoteCell (cell : Text) : Text := '"' :: (cell.flatMap quoteChar ++ ['"'])

/-- A cell, quoted if it holds a special character. -/
def writeCell (cell : Text) : Text := if cell.any isSpecial then quoteCell cell else cell

/-- A record with the mark of its end. The record of one empty cell is quoted, so that it differs
from the record of no cell. -/
def writeRecord (cells : List Text) : Text :=
  (if cells = [[]] then quoteCell [] else Text.joinWith [','] (cells.map writeCell)) ++
    ['\r', '\n']

/-! ### Reading -/

/-- Where a reader stands. -/
inductive Place where
  /-- At the start of a cell. -/
  | start
  /-- In a cell without quotes. -/
  | bare
  /-- Between the quotes of a cell. -/
  | quoted
  /-- Behind a quote that ends the cell, unless another one follows. -/
  | closed
  /-- Behind a carriage return. -/
  | ending
  deriving DecidableEq, Repr

/-- What has been read: whole records, the cells of the record under way, and the characters of
its last cell. -/
structure Progress where
  place : Place := .start
  cell : Text := []
  cells : List Text := []
  records : List (List Text) := []
  deriving DecidableEq, Repr

namespace Progress

/-- One more character of the cell, after which the reader stands at `place`. -/
def push (progress : Progress) (place : Place) (c : Char) : Progress :=
  { progress with place, cell := progress.cell ++ [c] }

/-- The end of the cell, after which the reader stands at `place`. -/
def endCell (progress : Progress) (place : Place) : Progress :=
  { progress with place, cell := [], cells := progress.cells ++ [progress.cell] }

def endRecord (progress : Progress) : Progress :=
  { records := progress.records ++ [progress.cells] }

/-- A character that may end a cell. Nothing else may stand there. -/
def delimit (progress : Progress) (c : Char) : Option Progress :=
  if c = ',' then some (progress.endCell .start)
  else if c = '\r' then some (progress.endCell .ending)
  else none

/-- Read one more character. A line on which nothing stands is the record of no cell. -/
def step (progress : Progress) (c : Char) : Option Progress :=
  match progress.place with
  | .start =>
    if c = '"' then some { progress with place := .quoted }
    else if c = '\r' ∧ progress.cells = [] then some { progress with place := .ending }
    else if c = '\n' then none
    else progress.delimit c <|> some (progress.push .bare c)
  | .bare =>
    if c = '"' ∨ c = '\n' then none else progress.delimit c <|> some (progress.push .bare c)
  | .quoted =>
    if c = '"' then some { progress with place := .closed } else some (progress.push .quoted c)
  | .closed => if c = '"' then some (progress.push .quoted c) else progress.delimit c
  | .ending => if c = '\n' then some progress.endRecord else none

/-- The records, if the last one is complete. -/
def result (progress : Progress) : Option (List (List Text)) :=
  if progress.place = .start ∧ progress.cells = [] then some progress.records else none

end Progress

def read (text : Text) : Option (List (List Text)) :=
  (text.foldlM Progress.step {}).bind Progress.result

end PoolLogin.Csv
