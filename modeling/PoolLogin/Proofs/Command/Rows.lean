import PoolLogin.Command.Run
import PoolLogin.Proofs.Log

/-! Writing rows to a file. The old file goes away before the first row is
written, so it has to be seen that from there on nothing can go wrong: a
file that could be removed can be made again, and a file that has taken one
row takes all the others. -/

namespace PoolLogin.Command

open FileTree PoolLogin.Action Log

/-- A row of optional texts. -/
abbrev Row := List (Text × Option Text)

/-- The cells of a row. -/
def cells (row : Row) : List (Text × Cell) := row.map fun (key, value) => (key, .ofOption value)

/-- What stands in front of the first row of a file. -/
def leadText (format : Text) (row : Row) : Text :=
  if format = "csv".toList then headerText (cells row) else []

/-- A row as it stands in a file. -/
def rowText (format : Text) (row : Row) : Text :=
  if format = "csv".toList then recordText (cells row) else jsonLine (.ofRow row)

/-- The content of a file that holds rows and nothing else. Without rows there is no file. -/
def rowsContent? (format : Text) : List Row → Option Bytes
  | [] => none
  | row :: rows =>
    some (Utf8.encode (leadText format row ++ (row :: rows).flatMap (rowText format)))

/-- A row as an addition to a file of rows. -/
def addition (format : Text) (row : Row) : Addition :=
  { lead := leadText format row, text := rowText format row }

theorem run_appendRow (format : Text) (path : Path) (row : Row) (tree : FileTree) :
    (appendRow format path row).run tree =
      (revise path (added (leadText format row) (rowText format row))).run tree := by
  rw [appendRow, leadText, rowText]
  split_ifs
  · exact run_appendCsv path _ tree
  · exact run_appendJson path _ tree

theorem appendRows_eq_forM (format : Text) (path : Path) (rows : List Row) :
    appendRows format path rows = rows.forM (appendRow format path) := by
  induction rows with
  | nil => rfl
  | cons row rows ih => rw [appendRows, ih, List.forM]

theorem run_appendRows (format : Text) (path : Path) (rows : List Row) (tree : FileTree) :
    (appendRows format path rows).run tree =
      (addAll path (rows.map (addition format))).run tree := by
  rw [appendRows_eq_forM]
  exact run_forM_congr (k := addition format) (run_appendRow format path) rows tree

theorem rowsContent?_eq (format : Text) (rows : List Row) :
    rowsContent? format rows = grown none (rows.map (addition format)) := by
  cases rows with
  | nil => rfl
  | cons row rows =>
      rw [List.map_cons, grown_none, rowsContent?, ← List.map_cons, List.flatMap_map]
      rfl

/-- A place at which no file stands takes any number of rows, if its directory is there. -/
theorem appendRows_of_none (format : Text) {path place : Path} (rows : List Row)
    {tree : FileTree} (h : tree.place path = .ok place) (hNone : tree.at? place = none) :
    ∃ after, (appendRows format path rows).run tree = (.ok (), after) ∧
      AgreesOff (some place) tree after ∧ after.fileAt? place = rowsContent? format rows := by
  obtain ⟨after, hRun, hAgrees, _, hContent⟩ :=
    run_addAll_of_place (rows.map (addition format)) h (by simp [hNone])
  refine ⟨after, by rw [run_appendRows, hRun], hAgrees, ?_⟩
  rw [hContent, fileAt?_of_none hNone, rowsContent?_eq]

/-- Rows that are appended one by one: only the first of them can fail. -/
theorem appendRows_cases (format : Text) {path : Path} (hPath : Path.upward ∉ path.names)
    (rows : List Row) (tree : FileTree) :
    (∃ fault after, (appendRows format path rows).run tree = (.error fault, after) ∧
      AgreesOff none tree after) ∨
    ∃ after, (appendRows format path rows).run tree = (.ok (), after) ∧
      AgreesOff (some path) tree after ∧
      (tree.fileAt? path = none → after.fileAt? path = rowsContent? format rows) := by
  rw [run_appendRows, rowsContent?_eq]
  cases rows with
  | nil => exact Or.inr ⟨tree, rfl, AgreesOff.refl _ tree, id⟩
  | cons row rows =>
      rcases addAll_cases path (addition format row) (rows.map (addition format)) tree with
        ⟨fault, after, hFail, _, hAgrees⟩ |
        ⟨middle, place, after, hAgrees, hPlace, hRun, hOff, _, hContent⟩
      · exact Or.inl ⟨fault, after, hFail, hAgrees⟩
      · obtain rfl : place = path := place_eq_self hPath hPlace
        refine Or.inr ⟨after, hRun, (hAgrees.weaken _).trans hOff, fun hNone => ?_⟩
        rw [hContent, hAgrees.files place (by simp), hNone]
        rfl

/-- Writing rows changes no file but the one named, and none at all if it
fails. A file that was there, or that nothing can be in the way of, holds the
rows afterwards and nothing else. -/
theorem writeRows_cases (format : Text) {path : Path} (hPath : Path.upward ∉ path.names)
    (rows : List Row) (tree : FileTree) :
    (∃ fault after, (writeRows format path rows).run tree = (.error fault, after) ∧
      AgreesOff none tree after) ∨
    ∃ after, (writeRows format path rows).run tree = (.ok (), after) ∧
      AgreesOff (some path) tree after ∧
      (tree.fileAt? path = tree.content? path →
        after.fileAt? path = rowsContent? format rows) := by
  rw [writeRows, run_bind]
  rcases remove_cases path tree with ⟨place, content, hPlace, hFile, hRun⟩ | ⟨hNone, hRun⟩ |
    ⟨fault, hRun⟩
  · obtain rfl : place = path := place_eq_self hPath hPlace
    have hNoDirectory : tree.at? place ≠ some .directory := by simp [hFile]
    obtain ⟨hDrop, hGone⟩ := at?_drop_self hPlace hNoDirectory
    obtain ⟨after, hRows, hAgrees, hAfter⟩ := appendRows_of_none format rows hDrop hGone
    refine Or.inr ⟨after, by rw [hRun]; exact hRows, ?_, fun _ => hAfter⟩
    exact (AgreesOff.drop hPlace hNoDirectory).trans hAgrees
  · simp only [hRun]
    rcases appendRows_cases format hPath rows tree with hFail | ⟨after, hRows, hAgrees,
      hAfter⟩
    · exact Or.inl hFail
    · refine Or.inr ⟨after, hRows, hAgrees, ?_⟩
      intro hReached
      exact hAfter (by rw [hReached, hNone])
  · exact Or.inl ⟨fault, tree, by rw [hRun], AgreesOff.refl none tree⟩

/-- Where a file can be written, and no other one comes up when directories
are made, rows are written, and the file holds them and nothing else. Then it
can be written again. -/
theorem run_writeRows_of_writable {tree : FileTree} {path : Path} (h : tree.Writable path)
    (hPath : tree.Settled path) (format : Text) (rows : List Row) :
    ∃ after, (writeRows format path rows).run tree = (.ok (), after) ∧ after.Writable path ∧
      after.content? path = rowsContent? format rows := by
  obtain ⟨middle, hRemove, hWritable, hSettled, hNone⟩ := run_remove_of_writable h hPath
  obtain ⟨after, hRun⟩ := run_addAll_of_writable hWritable (rows.map (addition format))
  have hContent : after.content? path = rowsContent? format rows := by
    rw [content?_of_addAll hSettled hRun, hNone, rowsContent?_eq]
  refine ⟨after, ?_, ?_, hContent⟩
  · rw [writeRows, run_bind, hRemove]
    simp only [run_appendRows]
    exact hRun
  · cases rows with
    | nil =>
        cases hRun
        exact hWritable
    | cons row rows => exact writable_of_content? hContent

end PoolLogin.Command
