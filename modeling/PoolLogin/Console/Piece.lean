import PoolLogin.Text.Grapheme

/-!
Pieces of a line that stand side by side. Each of them is measured and cut by itself, so that a
character at the start of a piece does not act on the piece before.
-/

namespace PoolLogin.Console

def piecesSize (pieces : List Text) : Nat := pieces.foldl (fun n piece => n + Text.cells piece) 0

/-- The pieces in front of the one that reaches the end of `width` cells, of which `used` are taken,
and what fits of that one. -/
def cropFrom (width used : Nat) : List Text → Except Text.CutFault (List Text)
  | [] => .ok []
  | piece :: rest => do
    let size := Text.cells piece
    if used + size < width then return piece :: (← cropFrom width (used + size) rest)
    else return [← Text.setCells (width - used) piece]

/-- Pieces cut so that they take `width` cells at most. -/
def crop (width : Nat) (pieces : List Text) : Except Text.CutFault (List Text) :=
  if piecesSize pieces ≤ width then .ok pieces else cropFrom width 0 pieces

/-- Pieces made to take `width` cells: blanks are added if they are too few. -/
def shape (width : Nat) (pieces : List Text) : Except Text.CutFault (List Text) :=
  let size := piecesSize pieces
  if size < width then .ok (pieces ++ [List.replicate (width - size) ' ']) else crop width pieces

/-- The pieces of a line, given by whether a new one starts in front of a character. -/
def pieces : List (Char × Bool) → List Text
  | [] => []
  | (c, _) :: rest =>
    let isNew := rest.head?.any (·.2)
    match pieces rest with
    | [] => [[c]]
    | piece :: later => if isNew then [c] :: piece :: later else (c :: piece) :: later

end PoolLogin.Console
