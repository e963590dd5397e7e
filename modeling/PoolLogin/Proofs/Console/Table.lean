import Mathlib.Algebra.Order.BigOperators.Group.List
import Mathlib.Algebra.Order.Group.Nat
import PoolLogin.Console.Table
import PoolLogin.Proofs.Console.Plain

/-! Plain tables on the console. If every cell has its place, so does every row: it is one line,
and in it each cell stands in full between two bars. -/

namespace PoolLogin.Console

open Text (IsPlain)

theorem le_foldl_max {n : Nat} {numbers : List Nat} (h : n ∈ numbers) (least : Nat) :
    n ≤ numbers.foldl max least := by
  have hLeast : ∀ (numbers : List Nat) (least : Nat), least ≤ numbers.foldl max least := by
    intro numbers
    induction numbers with
    | nil => exact fun least => Nat.le_refl least
    | cons m numbers ih => exact fun least => Nat.le_trans (Nat.le_max_left least m) (ih _)
  induction numbers generalizing least with
  | nil => cases h
  | cons m numbers ih =>
      rcases List.mem_cons.mp h with rfl | h
      · exact Nat.le_trans (Nat.le_max_right least n) (hLeast numbers _)
      · exact ih h _

theorem le_foldl_add {n : Nat} {numbers : List Nat} (h : n ∈ numbers) :
    n ≤ numbers.foldl (· + ·) 0 := by
  rw [← List.sum_eq_foldl]
  exact List.le_sum_of_mem h

namespace Table

variable {table : Table}

/-- The widths of columns with a place for every cell and a blank on each side of it. -/
def fullWidths (table : Table) : List Nat :=
  (List.range table.headings.length).map fun n =>
    ((table.headings :: table.rows).map fun row => (row[n]?.getD []).length + 2).foldl max 0

/-- A table of plain texts for which the console is wide enough. -/
structure Fits (table : Table) : Prop where
  headed : table.headings ≠ []
  complete : ∀ row ∈ table.rows, row.length = table.headings.length
  plain : ∀ row ∈ table.headings :: table.rows, ∀ cell ∈ row, ∀ c ∈ cell, IsPlain c
  narrow : sum (fullWidths table) + borderWidth table.headings.length ≤ lineWidth

/-- A cell with a blank on each side, filled up to the width of its column. -/
def drawnCell (width : Nat) (cell : Text) : Text :=
  ' ' :: (cell ++ List.replicate (width - 2 - cell.length) ' ' ++ [' '])

def drawnRow (bar : Char) (widths : List Nat) (row : List Text) : Text :=
  bar :: (Text.joinWith [bar] (widths.zipWith drawnCell row) ++ [bar])

/-- The lines of a table: its title, its head and one line for every row. -/
def drawn (table : Table) : List Text :=
  let widths := fullWidths table
  [centred (sum widths + borderWidth table.headings.length) table.title,
    rule '┏' '┳' '┓' '━' widths, drawnRow '┃' widths table.headings,
    rule '┡' '╇' '┩' '━' widths] ++
  table.rows.map (drawnRow '│' widths) ++ [rule '└' '┴' '┘' '─' widths]

/-! ### Widths -/

theorem textWidth_of_plain {text : Text} (h : ∀ c ∈ text, IsPlain c) :
    textWidth text = text.length := by
  have hPairs : Text.unicodeLines.mergePairs text = text := by
    induction text with
    | nil => rfl
    | cons c rest ih =>
        have hReturn : c ≠ '\r' := (h c List.mem_cons_self).ne (by decide)
        rw [Text.unicodeLines.mergePairs, ih fun d hd => h d (List.mem_cons_of_mem c hd)]
        rintro _ rfl
        exact absurd rfl hReturn
  have hLines : Text.splitAt Text.isLineBreak text = [text] := by
    apply Text.splitAt_of_none
    intro c hc
    obtain ⟨hLow, hHigh⟩ := h c hc
    simp only [Text.isLineBreak, Bool.or_eq_false_iff, Bool.and_eq_false_iff,
      decide_eq_false_iff_not, beq_eq_false_iff_ne]
    omega
  simp only [textWidth, Text.unicodeLines, hPairs, hLines]
  split_ifs with hEmpty
  · obtain rfl : text = [] := Option.some.inj hEmpty
    rfl
  · simp [cells_of_plain h]

theorem columnWidths_of_le {limit : Nat} {widths : List Nat} (h : sum widths ≤ limit) :
    columnWidths limit widths = widths := by
  have hSame : widths.map (min limit) = widths := by
    conv_rhs => rw [← List.map_id widths]
    apply List.map_congr_left
    intro width hWidth
    exact Nat.min_eq_right (Nat.le_trans (le_foldl_add hWidth) h)
  simp only [columnWidths, hSame]
  rw [if_pos h]

/-! ### Rows -/

/-- Pieces that fill a width stay as they are. -/
theorem shape_of_plain {width : Nat} {pieces : List Text}
    (h : ∀ piece ∈ pieces, ∀ c ∈ piece, IsPlain c) (hWidth : pieces.flatten.length = width) :
    shape width pieces = .ok pieces := by
  simp only [shape, crop, piecesSize_of_plain h]
  rw [if_neg (by omega), if_pos (by omega)]

theorem isPlain_of_mem_replicate {n : Nat} {c : Char} (h : c ∈ List.replicate n ' ') :
    IsPlain c := by
  rw [List.eq_of_mem_replicate h]
  decide

theorem cellLine_of_plain {width : Nat} {cell : Text} (h : ∀ c ∈ cell, IsPlain c)
    (hFits : cell.length + 2 ≤ width) : cellLine width cell = .ok (drawnCell width cell) := by
  obtain ⟨padded, hPadded⟩ :
      ∃ padded, padded = cell ++ List.replicate (width - 2 - cell.length) ' ' := ⟨_, rfl⟩
  have hPlain : ∀ c ∈ padded, IsPlain c := by
    intro c hc
    rw [hPadded, List.mem_append] at hc
    exact hc.elim (h c) isPlain_of_mem_replicate
  have hLength : padded.length = width - 2 := by
    rw [hPadded, List.length_append, List.length_replicate]
    omega
  have hPad : padTo (width - 2) cell = padded := by rw [padTo, cells_of_plain h, hPadded]
  have hFit : fit .ellipsis (width - 2) padded = .ok padded := by
    rw [fit, cells_of_plain hPlain, if_pos (Nat.le_of_eq hLength)]
  have hInner : shape (width - 2) [padded] = .ok [padded] := by
    apply shape_of_plain
    · simpa using hPlain
    · simpa using hLength
  have hOuter : shape width [[' '], padded, [' ']] = .ok [[' '], padded, [' ']] := by
    apply shape_of_plain
    · simp only [List.forall_mem_cons, List.not_mem_nil, false_implies, implies_true, and_true]
      exact ⟨by decide, hPlain, by decide⟩
    · simp only [List.flatten_cons, List.flatten_nil, List.length_append, List.length_cons,
        List.length_nil, hLength]
      omega
  have hShort : ¬width - 2 < Text.cells cell := by
    rw [cells_of_plain h]
    omega
  simp only [cellLine, if_neg hShort, hPad, pure_bind]
  rw [hFit]
  change (shape (width - 2) [padded] >>= _) = _
  rw [hInner]
  change (shape width [[' '], padded, [' ']] >>= _) = _
  rw [hOuter]
  change (shape width [[' '], padded, [' ']] >>= _) = _
  rw [hOuter, drawnCell, ← hPadded]
  rfl

theorem cellLines_of_plain {width : Nat} {cell : Text} (h : ∀ c ∈ cell, IsPlain c)
    (hFits : cell.length + 2 ≤ width) : cellLines width cell = .ok [drawnCell width cell] := by
  have hWidth : cell.length ≤ width - 2 := by omega
  have hNewline : '\n' ∉ cell := fun hMem => absurd (h '\n' hMem) (by decide)
  have hShown : ∀ c ∈ cell, IsShown c := fun c hc => isShown_of_le (h c hc).1
  have hBroken : brokenLines .ellipsis (width - 2) cell = [cell] := by
    rw [brokenLines, Text.splitLines_of_notMem hNewline, List.flatMap_singleton,
      expandTabs_of_shown hShown, breakLine_of_fits h hWidth, List.map_singleton,
      dropExcessBlanks_of_le hWidth]
  rw [cellLines, hBroken, List.mapM_cons, cellLine_of_plain h hFits]
  rfl

theorem foldl_max_replicate (n : Nat) : (List.replicate (n + 1) 1).foldl max 0 = 1 := by
  induction n with
  | zero => rfl
  | succ n ih => rw [List.replicate_succ, List.foldl_cons]; exact ih

/-- A row of plain cells that have their places is one line. -/
theorem rowLines_of_plain (bar : Char) {widths : List Nat} {row : List Text} (hSome : row ≠ [])
    (hLength : row.length = widths.length) (hPlain : ∀ cell ∈ row, ∀ c ∈ cell, IsPlain c)
    (hFits : ∀ place ∈ widths.zip row, place.2.length + 2 ≤ place.1) :
    rowLines bar widths row = .ok [drawnRow bar widths row] := by
  have hCells : (widths.zip row).mapM (fun place : Nat × Text => do
      return (place.1, ← cellLines place.1 place.2)) =
      (.ok ((widths.zip row).map fun place => (place.1, [drawnCell place.1 place.2])) :
        Except Text.CutFault _) := by
    apply Action.mapM_ok
    intro place hPlace
    rw [cellLines_of_plain (hPlain place.2 (List.of_mem_zip hPlace).2) (hFits place hPlace)]
    rfl
  have hHeight : (((widths.zip row).map fun place =>
      (place.1, [drawnCell place.1 place.2])).map fun cell => cell.2.length).foldl max 0 = 1 := by
    obtain ⟨n, hn⟩ : ∃ n, (widths.zip row).length = n + 1 := by
      rw [List.length_zip, ← hLength, Nat.min_self]
      exact Nat.exists_eq_succ_of_ne_zero (mt List.eq_nil_of_length_eq_zero hSome)
    rw [List.map_map]
    change ((widths.zip row).map fun _ => 1).foldl max 0 = 1
    rw [List.map_const', hn, foldl_max_replicate]
  simp only [rowLines]
  rw [hCells]
  simp only [bind, Except.bind]
  rw [hHeight]
  simp only [List.map_map]
  rw [drawnRow, ← List.map_uncurry_zip_eq_zipWith]
  rfl

/-! ### Tables -/

/-- Every cell has its place in the width of its column. -/
theorem place_of_mem {row : List Text} (hRow : row ∈ table.headings :: table.rows)
    {place : Nat × Text} (hPlace : place ∈ (fullWidths table).zip row) :
    place.2.length + 2 ≤ place.1 := by
  obtain ⟨n, hn, rfl⟩ := List.mem_iff_getElem.mp hPlace
  simp only [List.getElem_zip, fullWidths, List.getElem_map, List.getElem_range]
  apply le_foldl_max
  refine List.mem_map.mpr ⟨row, hRow, ?_⟩
  rw [List.length_zip] at hn
  rw [List.getElem?_eq_getElem (by omega), Option.getD_some]

theorem length_fullWidths (table : Table) :
    (fullWidths table).length = table.headings.length := by
  rw [fullWidths, List.length_map, List.length_range]

theorem Fits.rowLines_eq (h : table.Fits) (bar : Char) {row : List Text}
    (hRow : row ∈ table.headings :: table.rows) :
    rowLines bar (fullWidths table) row = .ok [drawnRow bar (fullWidths table) row] := by
  have hLength : row.length = table.headings.length := by
    rcases List.mem_cons.mp hRow with rfl | hRow
    · rfl
    · exact h.complete row hRow
  have hSome : row ≠ [] := by
    rintro rfl
    exact h.headed (List.eq_nil_of_length_eq_zero hLength.symm)
  exact rowLines_of_plain bar hSome (hLength.trans (length_fullWidths table).symm)
    (h.plain row hRow) fun place hPlace => place_of_mem hRow hPlace

theorem Fits.map_dropControls (h : table.Fits) {row : List Text}
    (hRow : row ∈ table.headings :: table.rows) : row.map dropControls = row := by
  conv_rhs => rw [← List.map_id row]
  apply List.map_congr_left
  exact fun cell hCell => dropControls_of_shown fun c hc => isShown_of_le
    (h.plain row hRow cell hCell c hc).1

/-- In plain cells the widths of columns are counted in characters. -/
theorem Fits.fullWidths_eq (h : table.Fits) :
    ((List.range table.headings.length).map fun n =>
      ((table.headings :: table.rows).map fun row => textWidth (row[n]?.getD []) + 2).foldl max 0) =
        fullWidths table := by
  apply List.map_congr_left
  intro n _
  congr 1
  apply List.map_congr_left
  intro row hRow
  rw [textWidth_of_plain]
  cases hCell : row[n]? with
  | none => exact fun c hc => absurd hc List.not_mem_nil
  | some cell => exact h.plain row hRow cell (List.mem_of_getElem? hCell)

/-- A plain table for which the console is wide enough is printed line by line as it is drawn. -/
theorem Fits.print_eq (h : table.Fits) :
    table.print = .ok (table.drawn.flatMap (· ++ ['\n'])) := by
  have hRows : (table.rows.map fun row => row.map dropControls) = table.rows := by
    conv_rhs => rw [← List.map_id table.rows]
    apply List.map_congr_left
    exact fun row hRow => h.map_dropControls (List.mem_cons_of_mem _ hRow)
  have hWidths : columnWidths (lineWidth - borderWidth table.headings.length) (fullWidths table) =
      fullWidths table := columnWidths_of_le (Nat.le_sub_of_add_le h.narrow)
  have hBody : table.rows.mapM (rowLines '│' (fullWidths table)) =
      .ok (table.rows.map fun row => [drawnRow '│' (fullWidths table) row]) :=
    Action.mapM_ok fun row hRow => h.rowLines_eq '│' (List.mem_cons_of_mem _ hRow)
  have hLines : table.lines = .ok table.drawn := by
    simp only [lines, h.map_dropControls List.mem_cons_self, hRows]
    rw [h.fullWidths_eq, hWidths, h.rowLines_eq '┃' List.mem_cons_self, hBody]
    simp only [bind, Except.bind]
    rw [← List.flatMap_def, ← List.map_eq_flatMap]
    rfl
  rw [print, hLines]
  rfl

end Table

end PoolLogin.Console
