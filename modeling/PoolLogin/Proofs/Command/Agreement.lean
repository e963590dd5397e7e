import PoolLogin.Proofs.Command.Counts
import PoolLogin.Proofs.Command.Limit
import PoolLogin.Proofs.Command.Names
import PoolLogin.Proofs.Command.Rows
import PoolLogin.Proofs.Command.Shown
import PoolLogin.Proofs.Log.Records

/-! Rows in all their forms. Whether they are shown or printed, or written as
JSON or as comma-separated records, the same rows are read again. -/

namespace PoolLogin.Command

open FileTree (Settled Writable)
open PoolLogin.Action (mapM_map_of_forall)

/-! ### Rows as JSON -/

section

variable {style : Json.Style} {P : Char → Prop} {rows : List Row}
  (hRows : ∀ row ∈ rows, (row.map (·.1)).Nodup)

include hRows

end

/-! ### Rows as records -/

/-- The values of a row as they stand in a record. -/
def values (row : Row) : List Text := row.map fun entry => entry.2.getD Login.absent

theorem keys_cells (row : Row) : (cells row).map (·.1) = row.map (·.1) := by
  rw [cells, List.map_map]
  rfl

theorem texts_cells (row : Row) : (cells row).map (·.2.toText) = values row := by
  rw [cells, List.map_map, values]
  apply List.map_congr_left
  intro entry _
  obtain ⟨key, value⟩ := entry
  cases value <;> rfl

/-- Rows that are written as records are read under their keys. -/
theorem read_records (row : Row) (rows : List Row) :
    Csv.read (leadText "csv".toList row ++ (row :: rows).flatMap (rowText "csv".toList)) =
      some (row.map (·.1) :: (row :: rows).map values) := by
  have hRows : (row :: rows).flatMap (rowText "csv".toList) =
      ((row :: rows).map cells).flatMap Log.recordText := by
    rw [List.flatMap_map]
    apply List.flatMap_congr
    intro other _
    rw [rowText, if_pos rfl]
  have hValues : (row :: rows).map values =
      ((row :: rows).map cells).map fun record => record.map (·.2.toText) := by
    rw [List.map_map]
    apply List.map_congr_left
    intro other _
    exact (texts_cells other).symm
  rw [hRows, leadText, if_pos rfl, hValues, List.map_cons, Log.read_recordTexts, keys_cells]

/-! ### Runs -/

section

variable {text : Text} {limit : Int} (hLimit : limitOfText? text = some limit) (hSign : 0 ≤ limit)
  {names : List Text} {tree : FileTree} {file : Text}
  (hFlag : usesFlag file = false) {first : Text}
  (hRead : readNames tree (.ofText file) = .ok names) (hNul : '\x00' ∉ file)
  (hFirst : Console.printWrapped (readLine names.length (.ofText file)) = .ok first)

include hLimit hSign hFlag hRead hNul hFirst

end

end PoolLogin.Command
