import PoolLogin.Proofs.Csv.RoundTrip
import PoolLogin.Proofs.Log
import PoolLogin.Proofs.Text.Utf8

/-! Records that are appended to a new file. They are read again under the
keys of the first one, whatever stands in their cells. -/

namespace PoolLogin.Log

open FileTree PoolLogin.Action

/-- The records that make up the content of a file. -/
def records? (content : Bytes) : Option (List (List Text)) :=
  (Utf8.decode content).toOption.bind Csv.read

theorem records?_encode (text : Text) : records? (Utf8.encode text) = Csv.read text := by
  rw [records?, Utf8.decode_encode]
  rfl

/-- A record as an addition to a file of records. -/
def recordAddition (row : List (Text × Cell)) : Addition :=
  { lead := headerText row, text := recordText row }

theorem run_forM_appendCsv (path : Path) (rows : List (List (Text × Cell))) (tree : FileTree) :
    (rows.forM (appendCsv path)).run tree = (addAll path (rows.map recordAddition)).run tree :=
  run_forM_congr (k := recordAddition) (run_appendCsv path) rows tree

theorem flatMap_recordText (rows : List (List (Text × Cell))) :
    rows.flatMap recordText =
      (rows.map fun row => row.map (·.2.toText)).flatMap Csv.writeRecord := by
  rw [List.flatMap_map]
  rfl

/-- Records as they are written under the keys of the first are read. -/
theorem read_recordTexts (first : List (Text × Cell)) (later : List (List (Text × Cell))) :
    Csv.read (headerText first ++ (first :: later).flatMap recordText) =
      some (first.map (·.1) :: (first :: later).map fun row => row.map (·.2.toText)) := by
  rw [flatMap_recordText, ← Csv.read_writeRecords]
  rfl

theorem records?_grown (first : List (Text × Cell)) (later : List (List (Text × Cell))) :
    (grown none ((first :: later).map recordAddition)).bind records? =
      some (first.map (·.1) :: (first :: later).map fun row => row.map (·.2.toText)) := by
  rw [List.map_cons, grown_none, Option.bind_some, records?_encode, ← List.map_cons,
    List.flatMap_map]
  exact read_recordTexts first later

/-- Records that have been appended are read behind what was there, or under
the keys of the first of them in a file that is new. -/
theorem exists_records_of_run {tree after : FileTree} {path : Path} {first : List (Text × Cell)}
    {later : List (List (Text × Cell))}
    (hRun : ((first :: later).forM (appendCsv path)).run tree = (.ok (), after)) :
    ∃ old written, after.content? path = some (old ++ written) ∧
      let records := (first :: later).map fun row => row.map (·.2.toText)
      (records? written = some records ∨
        old = [] ∧ records? written = some (first.map (·.1) :: records)) := by
  rw [run_forM_appendCsv, List.map_cons] at hRun
  obtain ⟨middle, _, hContent⟩ := exists_grown_of_addAll hRun
  rw [hContent]
  cases middle.content? path with
  | none =>
      have hRecords := records?_grown first later
      rw [List.map_cons, grown_none, Option.bind_some] at hRecords
      rw [grown_none]
      exact ⟨[], Utf8.encode _, rfl, Or.inr ⟨rfl, hRecords⟩⟩
  | some old =>
      rw [grown_some]
      refine ⟨old, Utf8.encode _, rfl, Or.inl ?_⟩
      rw [records?_encode, ← List.map_cons, List.flatMap_map, ← Csv.read_writeRecords,
        ← flatMap_recordText]
      rfl

/-- Records appended one by one to a file that is new, and is still new when
directories have been made, can all be appended just where a file can be
written, that is if directories are all that is missing on the way to it.
However they come to be appended, the file holds the keys of the first of
them and then each of them in order: no character of a key or a cell is lost
or ends it too early. -/
theorem appended_records_read_back {tree : FileTree} {path : Path} (hSettled : tree.Settled path)
    (hNew : tree.content? path = none) (first : List (Text × Cell))
    (later : List (List (Text × Cell))) :
    ((∃ after, ((first :: later).forM (appendCsv path)).run tree = (.ok (), after)) ↔
      tree.Writable path) ∧
    ∀ after, ((first :: later).forM (appendCsv path)).run tree = (.ok (), after) →
      (after.content? path).bind records? =
        some (first.map (·.1) :: (first :: later).map fun row => row.map (·.2.toText)) := by
  rw [run_forM_appendCsv]
  refine ⟨run_addAll_iff (by simp), fun after hRun => ?_⟩
  rw [content?_of_addAll hSettled hRun, hNew, records?_grown]

/-- Three records, one of them of a single empty cell, in a missing directory
to which a way up leads out of another one that is missing. -/
theorem appended_records_in_new_directory :
    let path := Path.ofText "logs/../../out/rows.csv".toList
    let rows : List (List (Text × Cell)) :=
      [[("a,b".toList, .absent), ("\"\r\n".toList, .text "x\n,".toList)], [(['k'], .text [])],
        [(['n'], .int (-12)), (['b'], .bool true)]]
    ∃ after, (rows.forM (appendCsv path)).run {} = (.ok (), after) ∧
      (after.content? path).bind records? = some
        [["a,b".toList, "\"\r\n".toList], ["NULL".toList, "x\n,".toList], [[]],
          ["-12".toList, "True".toList]] := by
  intro path rows
  have hWritable : FileTree.Writable {} path :=
    ⟨FileTree.withDirectories {} [.ofText "logs".toList, .ofText "../out".toList],
      .ofText "../out/rows.csv".toList, agreesOff_withDirectories _ _,
      eq_ok_of_toOption (by decide +kernel), by decide +kernel⟩
  have hNoFiles : ∀ place, FileTree.fileAt? {} place = none := by
    intro place
    rw [fileAt?, at?]
    split_ifs <;> rfl
  obtain ⟨hRuns, hReads⟩ := appended_records_read_back (settled_of_no_files hNoFiles)
    (show FileTree.content? {} path = none by decide +kernel)
    [("a,b".toList, .absent), ("\"\r\n".toList, .text "x\n,".toList)]
    [[(['k'], .text [])], [(['n'], .int (-12)), (['b'], .bool true)]]
  obtain ⟨after, hRun⟩ := hRuns.mpr hWritable
  exact ⟨after, hRun, (hReads after hRun).trans (by decide +kernel)⟩

/-- A path at which nothing stands, until the directory is made that it leaves
again. Then it leads to an old file, which gets no header. -/
theorem record_behind_old_content :
    let path := Path.ofText "missing/../rows.csv".toList
    let tree : FileTree :=
      { entries := [(Path.ofText "rows.csv".toList, .file (Utf8.encode "old\r\n".toList))] }
    let row : List (Text × Cell) := [(['k'], .text ['v'])]
    let outcome := ([row].forM (appendCsv path)).run tree
    tree.node? path = none ∧ outcome.1 = .ok () ∧
      (outcome.2.content? path).bind records? = some [["old".toList], [['v']]] ∧
      (outcome.2.content? path).bind records? ≠
        some (row.map (·.1) :: [row].map fun row => row.map (·.2.toText)) := by
  intro path tree row outcome
  exact ⟨by decide +kernel, eq_ok_of_toOption (by decide +kernel), by decide +kernel,
    by decide +kernel⟩

end PoolLogin.Log
