import PoolLogin.Text.Width

/-!
Texts on a character terminal. A joiner takes the character after it into the one before, and a
selector can widen the character before it, so a text is cut between clusters of characters and
not between any two.
-/

namespace PoolLogin.Text

/-- The cells of a text, `last` being the character before it that took a cell. -/
def cellsAfter (last : Option Char) : Text → Nat
  | [] => 0
  | [c] => own last c
  | c :: d :: rest =>
    if c = joiner then cellsAfter last rest
    else own last c + cellsAfter (next last c) (d :: rest)
where
  /-- The cells that one character adds. -/
  own (last : Option Char) (c : Char) : Nat :=
    if c = joiner then 0
    else if c = pictureSelector then if last.any hasWiderPicture then 1 else 0
    else cellWidth c
  /-- The last character that took a cell, after one more. -/
  next (last : Option Char) (c : Char) : Option Char :=
    if c = pictureSelector then none else if cellWidth c = 0 then last else some c

/-- The cells of a text. -/
def cells (text : Text) : Nat := cellsAfter none text

/-- Characters that are not taken apart, and the cells that they take together. -/
structure Cluster where
  text : Text
  size : Nat
  deriving DecidableEq, Repr

namespace Cluster

/-- A cluster with more characters at its end. -/
def add (cluster : Cluster) (text : Text) : Cluster :=
  { cluster with text := cluster.text ++ text }

/-- A cluster widened by a selector at its end, which follows `last`. -/
def select (cluster : Cluster) (last : Option Char) : Cluster :=
  { text := cluster.text ++ [pictureSelector]
    size := cluster.size + if last.any hasWiderPicture then 1 else 0 }

/-- The clusters of a text behind the cluster `current`, `last` being the last character that took a
cell. -/
def behind (current : Cluster) (last : Option Char) : Text → List Cluster
  | [] => [current]
  | [c] =>
    if c = joiner then [current.add [c]]
    else if c = pictureSelector then [current.select last]
    else if cellWidth c = 0 then [current.add [c]]
    else [current, ⟨[c], cellWidth c⟩]
  | c :: d :: rest =>
    if c = joiner then behind (current.add [c, d]) last rest
    else if c = pictureSelector then
      behind (current.select last) (if last.any hasWiderPicture then none else last) (d :: rest)
    else if cellWidth c = 0 then behind (current.add [c]) last (d :: rest)
    else current :: behind ⟨[c], cellWidth c⟩ (some c) (d :: rest)

/-- The clusters of a text. A joiner or selector at its start has nothing to act on. -/
def ofText : Text → List Cluster
  | [] => []
  | c :: rest =>
    if c = joiner ∨ c = pictureSelector ∨ cellWidth c = 0 then behind ⟨[c], 0⟩ none rest
    else behind ⟨[c], cellWidth c⟩ (some c) rest

def total (clusters : List Cluster) : Nat := clusters.foldl (fun n cluster => n + cluster.size) 0

/-- The start of a text that takes `limit` cells. A wide cluster that does not fit leaves a
blank. -/
def take (limit : Nat) : List Cluster → Text
  | [] => []
  | cluster :: rest =>
    if limit = 0 then []
    else if cluster.size ≤ limit then cluster.text ++ take (limit - cluster.size) rest
    else [' ']

/-- The lines of `width` cells into which clusters fit, behind a line of which `used` cells are
taken. -/
def chop (width : Nat) (line : Text) (used : Nat) : List Cluster → List Text
  | [] => if used = 0 then [] else [line]
  | cluster :: rest =>
    if width < used + cluster.size then line :: chop width cluster.text cluster.size rest
    else chop width (line ++ cluster.text) (used + cluster.size) rest

end Cluster

/-- Why a text cannot be cut. At the start of a text a joiner is measured otherwise than its cluster,
so the clusters of a text can take less cells than the text. -/
inductive CutFault where
  /-- No cluster takes a cell. -/
  | noCells
  /-- All clusters together do not reach the end. -/
  | tooFewCells
  deriving DecidableEq, Repr

/-- The start of a text that is wider than `width` cells. -/
def cutCells (width : Nat) (text : Text) : Except CutFault Text :=
  let clusters := Cluster.ofText text
  let total := Cluster.total clusters
  if width = 0 then .ok []
  else if total = 0 then .error .noCells
  else if total < width then .error .tooFewCells
  else .ok (Cluster.take width clusters)

/-- A text made to take `width` cells: blanks are added to a shorter one, and a longer one is
cut. -/
def setCells (width : Nat) (text : Text) : Except CutFault Text :=
  let size := cells text
  if size ≤ width then .ok (text ++ List.replicate (width - size) ' ') else cutCells width text

/-- The pieces of a text that are `width` cells wide at most. -/
def chopCells (width : Nat) (text : Text) : List Text :=
  Cluster.chop width [] 0 (Cluster.ofText text)

end PoolLogin.Text
