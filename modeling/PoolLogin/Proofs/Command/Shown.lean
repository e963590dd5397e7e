import PoolLogin.Proofs.Command.Arguments
import PoolLogin.Proofs.Command.Session
import PoolLogin.Proofs.Console.Line
import PoolLogin.Proofs.Json.Rows

/-! What is printed of rows. JSON holds nothing that the console would drop or
change, so it is printed as it was written. -/

namespace PoolLogin.Command

/-! ### Rows of names -/

theorem nodup_keys_rowsOf (limit : Int) (names : List Text) :
    ∀ row ∈ rowsOf limit names, (row.map (·.1)).Nodup := by
  intro row hRow
  obtain ⟨name, _, rfl⟩ := List.mem_map.mp hRow
  exact Json.nodup_keys_row _ _

theorem readable_rowsOf (limit : Int) (names : List Text) :
    Json.Readable 0 (.arr ((rowsOf limit names).map .ofRow)) :=
  ⟨by decide, Json.allReadable_rows (by decide) (nodup_keys_rowsOf limit names)⟩

/-! ### Printed JSON -/

theorem print_indented {value : Json} (h : Json.Readable 0 value) :
    Console.print (Json.write .indented value) = Json.write .indented value ++ ['\n'] := by
  apply Console.print_of_shown
  intro c hc
  rcases Json.forall_writeAt Json.writes_indented value 0 h c hc with hInk | rfl
  · exact Console.isShown_of_le hInk
  · exact ⟨rfl, by decide⟩

/-- Names that are shown as JSON are one array of rows. -/
theorem runArguments_parseLine {text option : Text} {limit : Int}
    (hLimit : limitOfText? text = some limit) (hSign : 0 ≤ limit) (hOption : option ∈ formatOptions)
    {names : List Text} (hNames : names ≠ []) (tree : FileTree) :
    runArguments tree (parseLine option text names) =
      { printed := Json.write .indented (.arr ((rowsOf limit names).map .ofRow)) ++ ['\n']
        tree, exit := .ok 0 } := by
  have hShown : shown "json".toList (names.map (readName limit)) =
      Json.write .indented (.arr ((rowsOf limit names).map .ofRow)) ++ ['\n'] := by
    have hEmpty : (names.map (readName limit)).isEmpty = false := by
      rw [List.isEmpty_map, List.isEmpty_eq_false_iff]
      exact hNames
    rw [shown, if_neg (by decide), hEmpty, if_neg Bool.false_ne_true,
      ← print_indented (readable_rowsOf limit names)]
    simp only [rowsOf, List.map_map]
    rfl
  have hFormat : knownFormat shownFormats "json".toList = .ok "json".toList :=
    knownFormat_of_mem (by decide +kernel) (by decide)
  rw [runArguments, ofArguments?_parseLine hLimit hOption hNames]
  simp only [run, Run.outcome, run_runParse, hFormat, if_neg (Int.not_lt.mpr hSign), hShown]
  rfl

end PoolLogin.Command
