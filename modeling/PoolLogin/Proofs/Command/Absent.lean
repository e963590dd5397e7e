import PoolLogin.Proofs.Command.Agreement

/-! Absent parts in records. A part that is absent is written as a word that a
part may also be. This is all that a record leaves open of the parts of a name. -/

namespace PoolLogin.Command

open PoolLogin.Action (eq_ok_of_toOption)

/-- The row of a worker name that is not cut. -/
def nameRow (name : Text) : Row := Login.row name (Login.parse name)

/-- Append the rows of worker names to a log. -/
def appendNames (path : Path) (names : List Text) : FileTree.Act Unit :=
  (names.map fun name => cells (nameRow name)).forM (Log.appendCsv path)

/-- What a record holds of a worker name. -/
def recordOf (name : Text) : List Text := values (nameRow name)

/-- The keys under which it stands. -/
def recordKeys : List Text := Login.nameKey :: Field.all.map Field.key

/-- The cell of a record under a key. -/
def cellUnder (key : Text) (record : List Text) : Option Text :=
  Entries.get? key (recordKeys.zip record)

/-- Whether two parts are written alike: they are the same, or one of them is
absent and the other is the word for it. -/
def Alike (part other : Option Text) : Prop :=
  part = other ∨ part = none ∧ other = some Login.absent ∨
    part = some Login.absent ∧ other = none

instance (part other : Option Text) : Decidable (Alike part other) :=
  inferInstanceAs (Decidable (_ ∨ _))

theorem getD_absent_eq_iff (part other : Option Text) :
    part.getD Login.absent = other.getD Login.absent ↔ Alike part other := by
  cases part with
  | none => cases other <;> simp [Alike, eq_comm]
  | some text => cases other <;> simp [Alike]

theorem cellUnder_recordOf (name : Text) (field : Field) :
    cellUnder field.key (recordOf name) =
      some (((Login.parse name).get field).getD Login.absent) := by
  cases field <;> rfl

/-- A cell is the text of its part, unless the part is absent and the cell says so. -/
theorem cellUnder_cases (name : Text) (field : Field) :
    ∃ cell, cellUnder field.key (recordOf name) = some cell ∧
      ((Login.parse name).get field = some cell ∨
        (Login.parse name).get field = none ∧ cell = Login.absent) := by
  refine ⟨_, cellUnder_recordOf name field, ?_⟩
  cases (Login.parse name).get field with
  | none => exact Or.inr ⟨rfl, rfl⟩
  | some text => exact Or.inl rfl

/-- Cells are the same exactly if the parts are written alike. -/
theorem cells_eq_iff (name other : Text) :
    (∀ field : Field,
      cellUnder field.key (recordOf name) = cellUnder field.key (recordOf other)) ↔
    ∀ field, Alike ((Login.parse name).get field) ((Login.parse other).get field) := by
  apply forall_congr'
  intro field
  rw [cellUnder_recordOf, cellUnder_recordOf, Option.some_inj, getD_absent_eq_iff]

theorem exists_appended_of_writable {tree : FileTree} {path : Path} (h : tree.Writable path)
    (names : List Text) : ∃ after, (appendNames path names).run tree = (.ok (), after) := by
  rw [appendNames, Log.run_forM_appendCsv]
  exact Log.run_addAll_of_writable h _

theorem exists_records_of_appended {tree after : FileTree} {path : Path} {names : List Text}
    (hNames : names ≠ []) (hRun : (appendNames path names).run tree = (.ok (), after)) :
    ∃ old written, after.content? path = some (old ++ written) ∧
      (Log.records? written = some (names.map recordOf) ∨
        old = [] ∧ Log.records? written = some (recordKeys :: names.map recordOf)) := by
  obtain ⟨name, others, rfl⟩ := List.exists_cons_of_ne_nil hNames
  have hTexts : ((name :: others).map fun name => cells (nameRow name)).map
      (fun row => row.map (·.2.toText)) = (name :: others).map recordOf := by
    rw [List.map_map]
    apply List.map_congr_left
    intro other _
    exact texts_cells (nameRow other)
  have hKeys : (cells (nameRow name)).map (·.1) = recordKeys := keys_cells (nameRow name)
  rw [← hTexts, ← hKeys]
  exact Log.exists_records_of_run hRun

/-- Records of worker names can be appended wherever a file can be written,
and are read behind what was there, or under their keys in a file that is new.
Their cells give the parts of the names back, but for a part that is absent in
one name and is the word for that in another. -/
theorem records_tell_parts :
    (∀ (tree : FileTree) (path : Path) (names : List Text),
      (tree.Writable path → ∃ after, (appendNames path names).run tree = (.ok (), after)) ∧
      ∀ after, names ≠ [] → (appendNames path names).run tree = (.ok (), after) →
        ∃ old written, after.content? path = some (old ++ written) ∧
          (Log.records? written = some (names.map recordOf) ∨
            old = [] ∧ Log.records? written = some (recordKeys :: names.map recordOf))) ∧
    (∀ name (field : Field), ∃ cell, cellUnder field.key (recordOf name) = some cell ∧
      ((Login.parse name).get field = some cell ∨
        (Login.parse name).get field = none ∧ cell = Login.absent)) ∧
    ∀ name other, (∀ field : Field,
        cellUnder field.key (recordOf name) = cellUnder field.key (recordOf other)) ↔
      ∀ field, Alike ((Login.parse name).get field) ((Login.parse other).get field) := by
  refine ⟨fun tree path names => ⟨fun h => exists_appended_of_writable h names, ?_⟩,
    cellUnder_cases, cells_eq_iff⟩
  intro after hNames hRun
  exact exists_records_of_appended hNames hRun

/-- An empty suffix and none at all, in a file that is new. -/
theorem records_tell_parts_of_two :
    let names := ["a.".toList, "a".toList]
    let path := Path.ofText "rows.csv".toList
    (∃ after old written, (appendNames path names).run {} = (.ok (), after) ∧
      after.content? path = some (old ++ written) ∧
      (Log.records? written = some (names.map recordOf) ∨
        old = [] ∧ Log.records? written = some (recordKeys :: names.map recordOf))) ∧
    ¬∀ field : Field, cellUnder field.key (recordOf "a.".toList) =
      cellUnder field.key (recordOf "a".toList) := by
  intro names path
  have hWritable : FileTree.Writable {} path :=
    FileTree.writable_of_clear (by decide +kernel) (by decide +kernel) (by decide +kernel)
  obtain ⟨hAppended, -, hCells⟩ := records_tell_parts
  obtain ⟨hRuns, hRead⟩ := hAppended {} path names
  obtain ⟨after, hRun⟩ := hRuns hWritable
  obtain ⟨old, written, hRecords⟩ := hRead after (by decide) hRun
  refine ⟨⟨after, old, written, hRun, hRecords⟩, fun hSame => ?_⟩
  have hAlike := (hCells _ _).mp hSame .suffix
  exact absurd hAlike (by decide +kernel)

/-- A suffix that is the word for absence. Its record is that of a name without a suffix. -/
theorem null_suffix_recorded_as_absent :
    let names := ["a".toList, "a.NULL".toList]
    let path := Path.ofText "rows.csv".toList
    let outcome := (appendNames path names).run {}
    Login.parse "a".toList ≠ Login.parse "a.NULL".toList ∧ outcome.1 = .ok () ∧
      (outcome.2.content? path).bind Log.records? = some (recordKeys :: names.map recordOf) ∧
      ∀ field : Field, cellUnder field.key (recordOf "a".toList) =
        cellUnder field.key (recordOf "a.NULL".toList) := by
  intro names path outcome
  refine ⟨by decide +kernel, eq_ok_of_toOption (by decide +kernel), by decide +kernel, ?_⟩
  intro field
  cases field <;> decide +kernel

end PoolLogin.Command
