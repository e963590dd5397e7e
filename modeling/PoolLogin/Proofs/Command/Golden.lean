import PoolLogin.Proofs.Command.Limit
import PoolLogin.Proofs.Command.Shown
import PoolLogin.Proofs.Command.Summary
import PoolLogin.Proofs.Console.Plain
import PoolLogin.Proofs.FileTree.Read
import PoolLogin.Proofs.Scenario.CaseFile
import PoolLogin.Proofs.Scenario.Rows
import PoolLogin.Proofs.Text.Utf8

/-! Golden files. What is shown of names as JSON is a case file, and a check of
it finds nothing wrong. -/

namespace PoolLogin

namespace Scenario

/-- Rows that are shown are the scenarios that expect what the rows tell. -/
theorem ofContent_rows (entries : List (Text × Login)) {path : Path} (hPath : isYaml path = false)
    {rows : List Json} (hRows : rows = entries.map fun entry => .ofRow (Login.row entry.1 entry.2))
    (hReadable : Json.Readable 0 (.arr rows)) :
    ofContent path (Utf8.encode (Json.write .indented (.arr rows) ++ ['\n'])) =
      .ok (entries.map fun entry => ofTexts entry.1 entry.2) := by
  have hObjects : .arr rows =
      Json.ofObjects (entries.map fun entry => rowMembers (Login.row entry.1 entry.2)) := by
    simp only [Json.ofObjects, hRows, List.map_map, Function.comp_def, obj_rowMembers]
  have hHolds := Json.holds_write_line hReadable
  rw [hObjects] at hHolds ⊢
  refine ofContent_of_spells hPath ?_ hHolds
  rw [List.forall₂_map_right_iff, List.forall₂_same]
  exact fun entry _ => spells_row entry

end Scenario

namespace Command

open Scenario (yamlSuffixes)

theorem scenarios_of_cases {tree : FileTree} {path : Path} {all : List Scenario}
    (hAll : loadCases tree path = .ok all) (hSome : all ≠ []) :
    scenarios tree (some path) false = .ok all := by
  rw [scenarios_eq, Option.elim, hAll]
  exact if_neg hSome

/-- A check of scenarios that pass counts them, and ends well. -/
theorem runArguments_checkLine {tree : FileTree} {file : Text} (hFile : '\x00' ∉ file)
    {all : List Scenario} (hAll : loadCases tree (.ofText file) = .ok all) (hSome : all ≠ [])
    (hPasses : ∀ scenario ∈ all, scenario.passes) :
    ∃ line, Console.printWrapped
      (passedLine { total := all.length, passed := all.length, failures := [] }) = .ok line ∧
      runArguments tree (checkLine file) = { printed := line, tree, exit := .ok 0 } := by
  have hJoiner : Text.joiner ∉
      passedLine { total := all.length, passed := all.length, failures := [] } :=
    fun hMem => absurd (isPlain_passedLine _ _ hMem) (by decide)
  obtain ⟨shown, hShown⟩ := Console.printWrapped_ok hJoiner
  refine ⟨_, hShown, ?_⟩
  rw [← Scenario.check_of_passes hPasses] at hShown
  have hTable : failureText (Scenario.check all).failures = .ok [] := by
    rw [Scenario.check_of_passes hPasses]
    rfl
  rw [runArguments_check (ofArguments?_checkLine hFile) (scenarios_of_cases hAll hSome) hTable
    hShown, Scenario.check_of_passes hPasses]
  rfl

/-- Whatever names are shown as JSON, their golden file holds one scenario for
each of them, cut as it was shown and with its parts expected, and a check of
that file passes them all. The count fits on one line unless there are more
names than could be counted in some five hundred digits. -/
theorem golden_file_passes {text : Text} {limit : Int} (hLimit : limitOfText? text = some limit)
    (hSign : 0 ≤ limit) {names : List Text} (hNames : names ≠ []) (before : FileTree)
    {tree : FileTree} {file : Text}
    (hFile : tree.content? (.ofText file) =
      some (Utf8.encode (runArguments before (parseLine "--format".toList text names)).printed))
    (hName : ∀ ending ∈ yamlSuffixes,
      ¬ending <:+ Text.lowercase ((Path.ofText file).names.getLastD [])) :
    let count := Numeral.natural names.length
    let report := count ++ '/' :: count ++ " scenarios passed".toList
    (runArguments before (parseLine "--format".toList text names)).exit = .ok 0 ∧
    Scenario.load tree (.ofText file) = .ok (names.map fun name =>
      .ofTexts (Login.truncate limit name) (Login.parse (Login.truncate limit name))) ∧
    ∃ line, Console.printWrapped report = .ok line ∧
      (report.length ≤ Console.lineWidth → line = report ++ ['\n']) ∧
      runArguments tree (checkLine file) = { printed := line, tree, exit := .ok 0 } := by
  intro count report
  have hShown := runArguments_parseLine hLimit hSign
    (show "--format".toList ∈ formatOptions by decide) hNames before
  rw [hShown] at hFile ⊢
  have hContent := Scenario.ofContent_rows (names.map (readName limit))
    (Scenario.isYaml_eq_false hName) (by
      simp only [rowsOf, List.map_map]
      rfl) (readable_rowsOf limit names)
  rw [List.map_map] at hContent
  refine ⟨rfl, ?_, ?_⟩
  · rw [Scenario.load, FileTree.readFile_of_content? hFile]
    exact hContent
  · have hCases : loadCases tree (.ofText file) = .ok (names.map fun name =>
        .ofTexts (Login.truncate limit name) (Login.parse (Login.truncate limit name))) := by
      rw [loadCases, FileTree.findFile_of_content? hFile]
      simp only [hContent]
      rfl
    obtain ⟨line, hLine, hRun⟩ := runArguments_checkLine (FileTree.nul_notMem_of_content? hFile)
      hCases (by simpa using hNames) (by
        intro scenario hScenario
        obtain ⟨name, _, rfl⟩ := List.mem_map.mp hScenario
        exact Scenario.passes_ofTexts_parse _)
    rw [List.length_map] at hLine
    refine ⟨line, hLine, ?_, hRun⟩
    intro hFits
    have hFit : Console.printWrapped report = .ok (report ++ ['\n']) := Console.printWrapped_of_fits
      (isPlain_passedLine { total := names.length, passed := names.length, failures := [] }) hFits
    exact Except.ok.inj (hLine.symm.trans hFit)

/-- A golden file of two names that are cut, one of them in the middle of a character. -/
theorem golden_file_of_two :
    let names := ["a.b@\t\"c".toList, "\nä€".toList]
    let shown := (runArguments {} (parseLine "--format".toList ['5'] names)).printed
    let tree : FileTree :=
      { entries := [(Path.ofText "golden.json".toList, .file (Utf8.encode shown))] }
    Scenario.load tree (.ofText "golden.json".toList) =
      .ok (["a.b@\t".toList, "\nä".toList].map fun name => .ofTexts name (Login.parse name)) ∧
    runArguments tree (checkLine "golden.json".toList) =
      { printed := "2/2 scenarios passed\n".toList, tree, exit := .ok 0 } := by
  intro names shown tree
  have hLimit : limitOfText? ['5'] = some 5 := limitOfText?_natural (n := 5) (by decide)
  have hFile : tree.content? (.ofText "golden.json".toList) = some (Utf8.encode shown) := rfl
  obtain ⟨_, hLoad, line, _, hLine, hRun⟩ := golden_file_passes hLimit (by decide)
    (show names ≠ [] by decide) {} hFile (by decide +kernel)
  refine ⟨hLoad.trans (congrArg Except.ok (by decide +kernel)), ?_⟩
  rw [hRun, hLine (by decide +kernel)]
  exact congrArg (fun printed => ({ printed, tree, exit := .ok 0 } : Outcome)) (by decide +kernel)

end Command

end PoolLogin
