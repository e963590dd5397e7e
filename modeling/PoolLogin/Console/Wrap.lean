import PoolLogin.Console.Highlight
import PoolLogin.Console.Line
import PoolLogin.Console.Piece

/-!
Lines broken between words so that they fit into a number of cells.
-/

namespace PoolLogin.Console

/-- The cells of a line of the console. -/
def lineWidth : Nat := 1000

/-- The words of a line, each with the white space after it, and the first also with that in front
of it. White space after which no word comes is no word. -/
def wordsFrom : (fuel : Nat) → Text → List Text
  | 0, _ => []
  | fuel + 1, text =>
    let (before, rest) := text.span Text.isBlank
    let (ink, rest) := rest.span fun c => !Text.isBlank c
    let (after, rest) := rest.span Text.isBlank
    if ink.isEmpty then [] else (before ++ ink ++ after) :: wordsFrom fuel rest

/-- The words of a line with the white space around them. -/
def words (line : Text) : List Text := wordsFrom line.length line

/-- The text without the white space at its end. -/
def dropTrailingBlanks (text : Text) : Text := (text.reverse.dropWhile Text.isBlank).reverse

/-- What happens to a word that is wider than a line. -/
inductive Overflow where
  /-- It is continued on the next lines. -/
  | fold
  /-- It is cut off, and an ellipsis shows it. -/
  | ellipsis
  deriving DecidableEq, Repr

/-- Put words on lines of `width` cells. `line` is the current line and `used` the cells that count
as taken in it. -/
def fill (overflow : Overflow) (width used : Nat) (line : Text) : List Text → List Text
  | [] => [line]
  | word :: words =>
    let size := Text.cells (dropTrailingBlanks word)
    if size ≤ width - used ∧ used ≤ width then
      fill overflow width (used + Text.cells word) (line ++ word) words
    else if width < size then
      match overflow with
      | .fold =>
        let pieces := Text.chopCells width word
        let last := pieces.getLastD []
        let full := pieces.dropLast
        (if line.isEmpty then full else line :: full) ++
          fill overflow width (Text.cells last) last words
      | .ellipsis =>
        if line.isEmpty then fill overflow width (Text.cells word) word words
        else line :: fill overflow width (Text.cells word) word words
    else if used = 0 ∨ line.isEmpty then fill overflow width used (line ++ word) words
    else line :: fill overflow width (Text.cells word) word words

/-- The line without the white space at its end that makes it longer than `width`. -/
def dropExcessBlanks (width : Nat) (line : Text) : Text :=
  let blanks := line.length - (dropTrailingBlanks line).length
  line.take (line.length - min blanks (line.length - width))

/-- A line of at most `width` cells. -/
def fit (overflow : Overflow) (width : Nat) (line : Text) : Except Text.CutFault Text :=
  if Text.cells line ≤ width then .ok line
  else match overflow with
    | .fold => Text.setCells width line
    | .ellipsis => (Text.setCells (width - 1) line).map (· ++ ['…'])

/-- The lines that a line is broken into. A line without words is not broken. -/
def breakLine (overflow : Overflow) (width : Nat) (line : Text) : List Text :=
  match words line with
  | [] => [line]
  | words => fill overflow width 0 [] words

/-- The lines that a text is broken into, of which a word can still be too wide. -/
def brokenLines (overflow : Overflow) (width : Nat) (text : Text) : List Text :=
  (Text.splitLines text).flatMap fun line =>
    (breakLine overflow width (expandTabs line)).map (dropExcessBlanks width)

/-- The portions of a list that have the given sizes. -/
def portions {α : Type} : (sizes : List Nat) → List α → List (List α)
  | [], _ => []
  | size :: sizes, line => line.take size :: portions sizes (line.drop size)

/-- The lines that a line is broken into so that each fits on the console. It is given with its
cuts, and what is too wide is cut off piece by piece. -/
def wrapLine (line : List (Char × Bool)) : Except Text.CutFault (List Text) :=
  let line := expandTabsIn Prod.fst (' ', false) line
  let broken := breakLine .fold lineWidth (line.map (·.1))
  (portions (broken.map List.length) line).mapM fun portion => do
    let text ← fit .fold lineWidth (dropExcessBlanks lineWidth (portion.map (·.1)))
    return (← crop lineWidth (pieces (text.zip (portion.map (·.2))))).flatten

/-- A text printed with its lines broken where they are too wide for the console. -/
def printWrapped (text : Text) : Except Text.CutFault Text := do
  let lines ← (Text.splitAt (·.1 == '\n') (Highlight.cuts (dropControls text))).mapM wrapLine
  return Text.joinWith ['\n'] lines.flatten ++ ['\n']

end PoolLogin.Console
