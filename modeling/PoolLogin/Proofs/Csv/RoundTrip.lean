import Mathlib.Tactic.SplitIfs
import PoolLogin.Csv
import PoolLogin.Proofs.Text.Join

/-! Comma-separated records there and back. The reader stands at the start of
a record whenever one has been written to its end. -/

namespace PoolLogin.Csv

variable {cell : Text} {cells : List Text} {records : List (List Text)}

namespace Progress

/-! ### One cell -/

theorem foldlM_bare {text : Text} (h : ∀ c ∈ text, isSpecial c = false) :
    text.foldlM step { place := .bare, cell, cells, records } =
      some { place := .bare, cell := cell ++ text, cells, records } := by
  induction text generalizing cell with
  | nil => simp
  | cons c text ih =>
      have hc := h c List.mem_cons_self
      simp only [isSpecial, Bool.or_eq_false_iff, beq_eq_false_iff_ne] at hc
      obtain ⟨⟨⟨hComma, hQuote⟩, hReturn⟩, hNewline⟩ := hc
      have hStep : step { place := .bare, cell, cells, records } c =
          some { place := .bare, cell := cell ++ [c], cells, records } := by
        simp [step, delimit, push, hComma, hQuote, hReturn, hNewline]
      rw [List.foldlM_cons, hStep]
      simp only [Option.bind_eq_bind, Option.bind_some]
      rw [ih fun d hd => h d (List.mem_cons_of_mem c hd), List.append_assoc]
      rfl

theorem foldlM_quoted (text : Text) :
    (text.flatMap quoteChar).foldlM step { place := .quoted, cell, cells, records } =
      some { place := .quoted, cell := cell ++ text, cells, records } := by
  induction text generalizing cell with
  | nil => simp
  | cons c text ih =>
      have hStep : (quoteChar c).foldlM step { place := .quoted, cell, cells, records } =
          some { place := .quoted, cell := cell ++ [c], cells, records } := by
        rw [quoteChar]
        split_ifs with hQuote
        · rw [hQuote]
          rfl
        · simp [step, push, hQuote]
      rw [List.flatMap_cons, List.foldlM_append, hStep]
      simp only [Option.bind_eq_bind, Option.bind_some]
      rw [ih, List.append_assoc]
      rfl

/-- Where the reader can stand when a cell is to end. -/
def CanEnd (place : Place) (cell : Text) : Prop :=
  place = .bare ∨ place = .closed ∨ place = .start ∧ cell = []

theorem foldlM_quoteCell (cell : Text) :
    (quoteCell cell).foldlM step { cells, records } =
      some { place := .closed, cell, cells, records } := by
  rw [quoteCell, List.foldlM_cons]
  change ((cell.flatMap quoteChar ++ ['"']).foldlM step { place := .quoted, cells, records }) = _
  rw [List.foldlM_append, foldlM_quoted]
  rfl

/-- A cell that is written is read, and can end then. -/
theorem foldlM_writeCell (cells : List Text) (records : List (List Text)) (cell : Text) :
    ∃ place, CanEnd place cell ∧ (writeCell cell).foldlM step { cells, records } =
      some { place, cell, cells, records } := by
  rw [writeCell]
  split_ifs with hSpecial
  · exact ⟨.closed, Or.inr (Or.inl rfl), foldlM_quoteCell cell⟩
  · have hPlain : ∀ c ∈ cell, isSpecial c = false := by
      simpa [List.any_eq_true] using hSpecial
    cases cell with
    | nil => exact ⟨.start, Or.inr (Or.inr ⟨rfl, rfl⟩), rfl⟩
    | cons c rest =>
        have hc := hPlain c List.mem_cons_self
        simp only [isSpecial, Bool.or_eq_false_iff, beq_eq_false_iff_ne] at hc
        obtain ⟨⟨⟨hComma, hQuote⟩, hReturn⟩, hNewline⟩ := hc
        have hStep : step { cells, records } c =
            some { place := .bare, cell := [c], cells, records } := by
          simp [step, delimit, push, hComma, hQuote, hReturn, hNewline]
        refine ⟨.bare, Or.inl rfl, ?_⟩
        rw [List.foldlM_cons, hStep]
        simp only [Option.bind_eq_bind, Option.bind_some]
        exact foldlM_bare fun d hd => hPlain d (List.mem_cons_of_mem c hd)

/-! ### One record -/

theorem step_comma {place : Place} (h : CanEnd place cell) :
    step { place, cell, cells, records } ',' = some { cells := cells ++ [cell], records } := by
  rcases h with rfl | rfl | ⟨rfl, rfl⟩ <;> rfl

/-- A carriage return ends a record, unless it would leave it without cells. -/
theorem step_return {place : Place} (h : CanEnd place cell)
    (hCells : place ≠ .start ∨ cells ≠ []) :
    step { place, cell, cells, records } '\r' =
      some { place := .ending, cells := cells ++ [cell], records } := by
  rcases h with rfl | rfl | ⟨rfl, rfl⟩
  · rfl
  · rfl
  · have hSome : cells ≠ [] := by simpa using hCells
    simp [step, delimit, endCell, hSome]

theorem step_newline : step { place := .ending, cells, records } '\n' =
    some { records := records ++ [cells] } := rfl

/-- The cells of a record up to its end, behind the cells that have been read. -/
theorem foldlM_cells (first : Text) (later : List Text)
    (h : cells ++ first :: later ≠ [[]]) :
    (Text.joinWith [','] ((first :: later).map writeCell) ++ ['\r', '\n']).foldlM step
      { cells, records } = some { records := records ++ [cells ++ first :: later] } := by
  induction later generalizing cells first with
  | nil =>
      obtain ⟨place, hPlace, hCell⟩ := foldlM_writeCell cells records first
      have hSome : place ≠ .start ∨ cells ≠ [] := by
        rcases hPlace with rfl | rfl | ⟨rfl, rfl⟩
        · exact Or.inl (by decide)
        · exact Or.inl (by decide)
        · refine Or.inr fun hNone => h ?_
          rw [hNone]
          rfl
      rw [List.map_singleton, Text.joinWith_singleton, List.foldlM_append, hCell]
      simp only [Option.bind_eq_bind, Option.bind_some, List.foldlM_cons, List.foldlM_nil,
        step_return hPlace hSome, step_newline]
      rfl
  | cons second later ih =>
      obtain ⟨place, hPlace, hCell⟩ := foldlM_writeCell cells records first
      rw [List.map_cons, List.map_cons, Text.joinWith_cons_cons, List.append_assoc,
        List.foldlM_append, List.foldlM_append, hCell]
      simp only [Option.bind_eq_bind, Option.bind_some, List.foldlM_cons, List.foldlM_nil,
        step_comma hPlace]
      have hMore : cells ++ [first] ++ second :: later ≠ [[]] := by
        intro hEq
        have hLength := congrArg List.length hEq
        simp only [List.length_append, List.length_cons, List.length_nil] at hLength
        omega
      have hRest := ih second hMore
      rw [List.append_assoc] at hRest
      exact hRest

/-- A record that is written is read. -/
theorem foldlM_writeRecord (record : List Text) :
    (writeRecord record).foldlM step { records } = some { records := records ++ [record] } := by
  rw [writeRecord]
  split_ifs with hEmpty
  · rw [hEmpty, List.foldlM_append, foldlM_quoteCell]
    rfl
  · cases record with
    | nil => rfl
    | cons first later => exact foldlM_cells first later hEmpty

end Progress

/-- Records that are written are read. -/
theorem read_writeRecords (records : List (List Text)) :
    read (records.flatMap writeRecord) = some records := by
  have hFold : ∀ before, (records.flatMap writeRecord).foldlM Progress.step { records := before } =
      some { records := before ++ records } := by
    induction records with
    | nil => simp
    | cons record records ih =>
        intro before
        rw [List.flatMap_cons, List.foldlM_append, Progress.foldlM_writeRecord]
        simp only [Option.bind_eq_bind, Option.bind_some]
        rw [ih, List.append_assoc]
        rfl
  rw [read, hFold []]
  rfl

end PoolLogin.Csv
