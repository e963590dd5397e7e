import PoolLogin.Proofs.Command.Failures
import PoolLogin.Proofs.Command.Summary
import PoolLogin.Proofs.Console.Table
import PoolLogin.Proofs.FileTree.Read
import PoolLogin.Proofs.Scenario.Check

/-! The reports of a check. The number that it exits with, what it prints and
the file that it writes all tell what was found of the same scenarios. -/

namespace PoolLogin

namespace Console

/-- A table that is printed has lines, even without rows. -/
theorem Table.print_ne_nil {table : Table} {text : Text} (h : table.print = .ok text) :
    text ≠ [] := by
  rw [Table.print] at h
  cases hLines : table.lines with
  | error fault =>
      rw [hLines] at h
      cases h
  | ok lines =>
      rw [hLines] at h
      cases h
      rw [Table.lines] at hLines
      obtain ⟨head, _, hLines⟩ := Action.exists_of_bind_ok hLines
      obtain ⟨body, _, hLines⟩ := Action.exists_of_bind_ok hLines
      cases hLines
      simp

theorem StandIns.eq_of_check {block : StandIns} {text shown : Text}
    (h : block.check text = .ok shown) : shown = text := by
  rw [check] at h
  cases hSpan : text.span fun c => !block.holds c with
  | mk before rest =>
      rw [hSpan] at h
      cases rest with
      | nil => exact (Except.ok.inj h).symm
      | cons c rest => cases h

/-- What is printed of texts was printed of as many texts, and of just these if they hold no
surrogates, for which other characters would stand in. -/
theorem exists_of_printWide {wide : List WideText}
    {print : List Text → Except Text.CutFault Text} {text : Text}
    (h : printWide wide print = .ok text) :
    ∃ texts, texts.length = wide.length ∧
      (∀ others : List Text, wide = others.map WideText.ofText → texts = others) ∧
      print texts = .ok text := by
  rw [printWide] at h
  split at h
  · next texts hTexts =>
      refine ⟨texts, ?_, ?_, Action.mapError_eq_ok_iff.mp h⟩
      · exact Action.length_of_mapM_some hTexts
      · rintro others rfl
        rw [Action.mapM_map_of_forall fun text _ => WideText.text?_ofText text] at hTexts
        exact (Option.some.inj hTexts).symm
  · next hNone =>
      obtain ⟨shown, hShown, h⟩ := Action.exists_of_bind_ok h
      rw [StandIns.eq_of_check h]
      refine ⟨_, List.length_map _, ?_, Action.mapError_eq_ok_iff.mp hShown⟩
      rintro others rfl
      rw [Action.mapM_map_of_forall fun text _ => WideText.text?_ofText text] at hNone
      cases hNone

end Console

namespace Command

open PoolLogin.Action

/-- Failures are printed exactly if there are any. -/
theorem failureText_eq_nil_iff {failures : List Scenario.Failure} {text : Text}
    (h : failureText failures = .ok text) : text = [] ↔ failures = [] := by
  rw [failureText] at h
  split_ifs at h with hEmpty
  · cases h
    exact iff_of_true rfl (List.isEmpty_iff.mp hEmpty)
  · obtain ⟨names, _, _, hTable⟩ := Console.exists_of_printWide h
    exact iff_of_false (Console.Table.print_ne_nil hTable) fun hNil => hEmpty (by rw [hNil]; rfl)

/-- A table that shows failures: under its title and headings it has a row for each of them, in
order, with the worker name, the field, and in quotes what was expected and what was found. Names
stand in it as they are unless there are surrogates among them. -/
structure ShowsFailures (failures : List Scenario.Failure) (table : Console.Table) : Prop where
  title : table.title = "Scenario failures".toList
  headings : table.headings = ["Worker name", "Field", "Expected", "Found"].map String.toList
  rows : table.rows.map List.tail = failures.map fun failure =>
    [failure.field.key, Text.quotedOption failure.expected, Text.quotedOption failure.found]
  names : ∀ names : List Text, failures.map (·.name) = names.map WideText.ofText →
    table.rows.map List.head? = names.map some

/-- The names of failures are the first column of their table. -/
theorem map_head?_failureTable (failures : List Scenario.Failure) {names : List Text}
    (h : names.length = failures.length) :
    (failureTable failures names).rows.map List.head? = names.map some := by
  rw [rows_failureTable, List.map_map]
  conv_rhs => rw [← List.map_snd_zip (Nat.le_of_eq h), List.map_map]
  rfl

/-- Failures are printed as a table that shows them, line by line if it fits on the console. -/
theorem exists_of_failureText {failures : List Scenario.Failure} {text : Text}
    (h : failureText failures = .ok text) (hSome : failures ≠ []) :
    ∃ table, ShowsFailures failures table ∧ table.print = .ok text ∧
      (table.Fits → text = table.drawn.flatMap (· ++ ['\n'])) := by
  rw [failureText, if_neg (mt List.isEmpty_iff.mp hSome)] at h
  obtain ⟨names, hLength, hNames, hPrint⟩ := Console.exists_of_printWide h
  rw [List.length_map] at hLength
  refine ⟨failureTable failures names, ⟨rfl, rfl, map_tail_failureTable failures hLength, ?_⟩,
    hPrint, fun hFits => Except.ok.inj (hPrint.symm.trans hFits.print_eq)⟩
  intro others hOthers
  rw [map_head?_failureTable failures hLength, hNames others hOthers]

section

variable {failures : List Scenario.Failure} {names : List Text}
  (hNames : failures.map (·.name) = names.map WideText.ofText)

include hNames

/-- Names without surrogates leave only one table that shows failures. -/
theorem ShowsFailures.eq_failureTable {table : Console.Table} (h : ShowsFailures failures table) :
    table = failureTable failures names := by
  have hLength : names.length = failures.length := by
    rw [← List.length_map WideText.ofText, ← hNames, List.length_map]
  have hCons : Function.Injective fun row : List Text => (row.head?, row.tail) := by
    intro row other hSame
    cases row <;> cases other <;> simp_all
  have hRows : table.rows = (failureTable failures names).rows := by
    apply List.map_injective_iff.mpr hCons
    rw [← List.zip_map', ← List.zip_map', h.rows, h.names names hNames,
      map_head?_failureTable failures hLength, map_tail_failureTable failures hLength]
  obtain ⟨title, headings, rows⟩ := table
  obtain rfl : title = _ := h.title
  obtain rfl : headings = _ := h.headings
  obtain rfl : rows = _ := hRows
  rfl

/-- Failures with such names are printed as this table is drawn, if it fits on the console. -/
theorem failureText_of_fits (hSome : failures ≠ []) (hFits : (failureTable failures names).Fits) :
    failureText failures =
      .ok ((failureTable failures names).drawn.flatMap (· ++ ['\n'])) := by
  rw [failureText, if_neg (mt List.isEmpty_iff.mp hSome), Console.printWide, hNames,
    mapM_map_of_forall fun text _ => WideText.text?_ofText text]
  simp only [hFits.print_eq]
  rfl

end

/-- A table is printed exactly if the run exits with one. -/
theorem table_ne_nil_iff {summary : Scenario.Summary} {table : Text}
    (h : failureText summary.failures = .ok table) :
    table ≠ [] ↔ (if summary.ok then 0 else 1) = 1 := by
  rw [ne_eq, failureText_eq_nil_iff h, ← List.isEmpty_iff, ← Scenario.Summary.ok]
  cases summary.ok <;> simp

/-! ### Scenarios -/

theorem load_of_loadCases {tree : FileTree} {path : Path} {all : List Scenario}
    (h : loadCases tree path = .ok all) : Scenario.load tree path = .ok all := by
  rw [loadCases] at h
  split at h
  · cases h
  · cases h
  · next hFound =>
      rw [Scenario.load, FileTree.readFile_of_content? (FileTree.content?_of_findFile hFound)]
      exact mapError_eq_ok_iff.mp h

/-- Scenarios to check are the built-in ones and those of the file, and there are some. -/
theorem exists_of_scenarios {tree : FileTree} {cases : Option Path} {builtin : Bool}
    {all : List Scenario} (h : scenarios tree cases builtin = .ok all) :
    ∃ loaded, cases.elim (.ok []) (Scenario.load tree) = .ok loaded ∧
      all = (if builtin then Scenario.builtin else []) ++ loaded ∧ all ≠ [] := by
  rw [scenarios_eq] at h
  obtain ⟨loaded, hLoaded, h⟩ := exists_of_bind_ok h
  by_cases hEmpty : (if builtin then Scenario.builtin else []) ++ loaded = []
  · rw [if_pos hEmpty] at h
    cases h
  · rw [if_neg hEmpty] at h
    cases h
    refine ⟨loaded, ?_, rfl, hEmpty⟩
    cases cases with
    | none => exact congrArg Except.ok (Except.ok.inj hLoaded)
    | some path => exact load_of_loadCases hLoaded

/-! ### Runs -/

/-- What a check that ends without a fault has printed and written. -/
structure Reported (summary : Scenario.Summary) (output : Option Path) (code : Nat) (printed : Text)
    (after : FileTree) : Prop where
  code : code = if summary.ok then 0 else 1
  shown : ∃ table line filed, printed = table ++ line ++ filed ∧
    failureText summary.failures = .ok table ∧
    Console.printWrapped (passedLine summary) = .ok line ∧ filedText output = .ok filed
  written : ∀ path, output = some path → (summaryJson summary).isScalar = true ∧
    after.content? path = some (summaryContent summary)

theorem reported_of_reportCheck {summary : Scenario.Summary} {output : Option Path} {code : Nat}
    {tree : FileTree} {t : Session}
    (h : (reportCheck summary output).run { tree } = (.ok code, t)) :
    Reported summary output code t.printed t.tree := by
  rw [reportCheck_eq] at h
  obtain ⟨_, _, hFirst, h⟩ := exists_of_run_bind h
  obtain ⟨table, hTable, rfl⟩ := Run.exists_of_printResult hFirst
  obtain ⟨_, _, hSecond, h⟩ := exists_of_run_bind h
  obtain ⟨line, hLine, rfl⟩ := Run.exists_of_printLine hSecond
  obtain ⟨hCode, ⟨filed, hFiled, hPrinted⟩, hWritten⟩ := file_ok h
  exact ⟨hCode, ⟨table, line, filed, hPrinted, hTable, hLine, hFiled⟩, hWritten⟩

/-- A check that ends without a fault has reported what it found of the scenarios. -/
theorem exists_of_runArguments {tree : FileTree} {arguments : List Text} {cases : Option Path}
    {builtin : Bool} {output : Option Path}
    (hCommand : ofArguments? arguments = some (.check cases builtin output)) {code : Nat}
    (hExit : (runArguments tree arguments).exit = .ok code) :
    ∃ all, scenarios tree cases builtin = .ok all ∧
      Reported (Scenario.check all) output code (runArguments tree arguments).printed
        (runArguments tree arguments).tree := by
  have hRun : runArguments tree arguments = Run.outcome (runCheck cases builtin output) tree := by
    rw [runArguments, hCommand]
    rfl
  rw [hRun] at hExit ⊢
  rw [Run.outcome, run_runCheck] at hExit ⊢
  cases hAll : scenarios tree cases builtin with
  | error failure =>
      simp only [hAll] at hExit
      cases hExit
  | ok all =>
      simp only [hAll] at hExit ⊢
      exact ⟨all, rfl, reported_of_reportCheck (Prod.ext hExit rfl)⟩

/-- A check that can print its reports and write its summary ends without a fault. -/
theorem runArguments_check_written {tree after : FileTree} {arguments : List Text}
    {cases : Option Path} {builtin : Bool} {path : Path}
    (hCommand : ofArguments? arguments = some (.check cases builtin (some path)))
    {all : List Scenario} (hAll : scenarios tree cases builtin = .ok all)
    {table line filed : Text} (hTable : failureText (Scenario.check all).failures = .ok table)
    (hLine : Console.printWrapped (passedLine (Scenario.check all)) = .ok line)
    (hScalar : (summaryJson (Scenario.check all)).isScalar = true)
    (hWritten : (FileTree.revise path fun _ => summaryContent (Scenario.check all)).run tree =
      (.ok (), after))
    (hFiled : Console.printWrapped (filedLine path) = .ok filed) :
    runArguments tree arguments =
      { printed := table ++ line ++ filed
        tree := after
        exit := .ok (if (Scenario.check all).ok then 0 else 1) } := by
  have hPrint : ∀ s : Session, (Run.print (table ++ line)).run s =
      (.ok (), Run.Printed s (table ++ line)) := fun _ => rfl
  rw [runArguments_check hCommand hAll hTable hLine]
  simp only [Run.outcome, file, run_bind, hPrint, run_writeSummary, hScalar, if_true, Run.run_act,
    Run.Printed, hWritten, Run.run_printLine, hFiled]
  rfl

/-- The number that a check exits with tells whether all scenarios are read as expected. -/
theorem exitCode_eq {all : List Scenario} :
    (if (Scenario.check all).ok then 0 else 1) =
      if ∀ scenario ∈ all, Login.parseWide scenario.name = scenario.expected then 0 else 1 := by
  have hPasses : (Scenario.check all).ok = true ↔
      ∀ scenario ∈ all, Login.parseWide scenario.name = scenario.expected := by
    rw [Scenario.ok_check_iff]
    exact forall₂_congr fun _ _ => Scenario.passes_iff
  simp only [hPasses]

/-- Every check that ends without a fault is about some scenarios, those built
in and those of the file, and all its reports are about them: it exits with
zero if they are all read as expected and else with one, prints a table that
shows the failures in that case only, prints how many have passed, and writes
what it has found to the file that it is told to write, in either case. The
counts stay on one line as long as they fit, and so does each failure in a
table of plain texts; what is in the file is read again unless the total has
more digits than can be read. -/
theorem check_reports_agree {tree : FileTree} {arguments : List Text} {cases : Option Path}
    {builtin : Bool} {output : Option Path}
    (hCommand : ofArguments? arguments = some (.check cases builtin output)) {code : Nat}
    (hExit : (runArguments tree arguments).exit = .ok code) :
    ∃ loaded, cases.elim (.ok []) (Scenario.load tree) = .ok loaded ∧
      let all := (if builtin then Scenario.builtin else []) ++ loaded
      let summary := Scenario.check all
      all ≠ [] ∧
      code = (if ∀ scenario ∈ all, Login.parseWide scenario.name = scenario.expected
        then 0 else 1) ∧
      (∃ table line filed,
        (runArguments tree arguments).printed = table ++ line ++ filed ∧
        failureText summary.failures = .ok table ∧ (table ≠ [] ↔ code = 1) ∧
        (code = 1 → ∃ shown : Console.Table, ShowsFailures summary.failures shown ∧
          shown.print = .ok table ∧
          (shown.Fits → table = shown.drawn.flatMap (· ++ ['\n']))) ∧
        Console.printWrapped (passedLine summary) = .ok line ∧
        ((passedLine summary).length ≤ Console.lineWidth →
          line = passedLine summary ++ ['\n']) ∧
        filedText output = .ok filed) ∧
      ∀ path, output = some path → ∃ content,
        (runArguments tree arguments).tree.content? path = some content ∧
        ((Numeral.natural summary.total).length ≤ Numeral.maxDigits →
          ∃ value, Json.Holds content value ∧
            Scenario.Summary.ofJson? value = some summary) := by
  obtain ⟨all, hAll, hReported⟩ := exists_of_runArguments hCommand hExit
  obtain ⟨loaded, hLoaded, rfl, hSome⟩ := exists_of_scenarios hAll
  obtain ⟨hCode, ⟨table, line, filed, hPrinted, hTable, hLine, hFiled⟩, hWritten⟩ := hReported
  refine ⟨loaded, hLoaded, hSome, by rw [hCode, exitCode_eq],
    ⟨table, line, filed, hPrinted, hTable, ?_, fun hOne => ?_, hLine, fun hFits => ?_, hFiled⟩,
    fun path hPath => ?_⟩
  · rw [hCode]
    exact table_ne_nil_iff hTable
  · have hSomeTable := (table_ne_nil_iff hTable).mpr (hCode.symm.trans hOne)
    exact exists_of_failureText hTable (mt (failureText_eq_nil_iff hTable).mpr hSomeTable)
  · have hFit := Console.printWrapped_of_fits (isPlain_passedLine _) hFits
    exact Except.ok.inj (hLine.symm.trans hFit)
  · obtain ⟨hScalar, hContent⟩ := hWritten path hPath
    exact ⟨_, hContent, fun hTotal =>
      ⟨_, holds_summaryContent hScalar (Scenario.passed_le_total _) hTotal, ofJson?_summaryJson _⟩⟩

/-- A check with one failure behind the scenarios that are built in. It exits with one, shows the
failure and the counts, and still writes its summary. -/
theorem check_reports_one_failure :
    let tree : FileTree := { entries := [(Path.ofText "cases.json".toList, .file (Utf8.encode
      "[\x7b\"workername\": \"a.b\", \"primary_id\": \"a\", \"suffix\": \"\"\x7d]".toList))] }
    let line := ["check", "--cases", "cases.json", "-o", "summary.json"].map String.toList
    let summary : Scenario.Summary :=
      { total := 11
        passed := 10
        failures := [{
          name := .ofText "a.b".toList
          field := .suffix
          expected := some []
          found := some (.ofText ['b']) }] }
    (runArguments tree line).exit = .ok 1 ∧
    (∃ (shown : Console.Table) (filed : Text), ShowsFailures summary.failures shown ∧
      (runArguments tree line).printed = shown.drawn.flatMap (· ++ ['\n']) ++
        "10/11 scenarios passed\n".toList ++ filed ∧
      shown.drawn.length = 6 ∧
      shown.drawn[4]? = some "│ a.b         │ suffix │ ''       │ 'b'   │".toList) ∧
    ∃ content value,
      (runArguments tree line).tree.content? (.ofText "summary.json".toList) = some content ∧
        Json.Holds content value ∧ Scenario.Summary.ofJson? value = some summary := by
  intro tree line summary
  let path := Path.ofText "summary.json".toList
  let scenario := Scenario.ofLiterals "a.b" "a" none none (some "")
  have hCommand : ofArguments? line =
      some (.check (some (.ofText "cases.json".toList)) true (some path)) := by decide +kernel
  have hAll : scenarios tree (some (.ofText "cases.json".toList)) true =
      .ok (Scenario.builtin ++ [scenario]) := eq_ok_of_toOption (by decide +kernel)
  have hSummary : Scenario.check (Scenario.builtin ++ [scenario]) = summary := by decide +kernel
  have hNames : summary.failures.map (·.name) = ["a.b".toList].map WideText.ofText := rfl
  have hFits : (failureTable summary.failures ["a.b".toList]).Fits := by
    refine ⟨List.cons_ne_nil _ _, List.forall_mem_singleton.mpr rfl, ?_, by decide +kernel⟩
    intro row hRow cell hCell
    exact Text.forall_isPlain (List.all_eq_true.mp (List.all_eq_true.mp
      (show (_ : List (List Text)).all (fun row => row.all fun cell => cell.all fun c =>
        decide (Text.IsPlain c)) by decide +kernel) row hRow) cell hCell)
  have hTable := failureText_of_fits hNames (List.cons_ne_nil _ _) hFits
  have hLine := Console.printWrapped_of_fits (isPlain_passedLine summary) (by decide +kernel)
  have hScalar : (summaryJson summary).isScalar = true := by decide +kernel
  have hPlace : tree.place path = .ok path := eq_ok_of_toOption (by decide +kernel)
  have hWritten := FileTree.run_revise_of_place (f := fun _ => summaryContent summary) hPlace
    (by decide +kernel)
  have hFiled := Console.printWrapped_of_fits
    (Text.forall_isPlain (show (filedLine path).all _ by decide +kernel)) (by decide +kernel)
  have hTotal : (Numeral.natural summary.total).length ≤ Numeral.maxDigits := by decide +kernel
  rw [← hSummary] at hTable hLine hScalar hWritten hTotal
  have hRun := runArguments_check_written hCommand hAll hTable hLine hScalar hWritten hFiled
  have hExit : (runArguments tree line).exit = .ok 1 := by
    rw [hRun, hSummary]
    rfl
  have hLoad : Scenario.load tree (.ofText "cases.json".toList) = .ok [scenario] :=
    eq_ok_of_toOption (by decide +kernel)
  obtain ⟨loaded, hLoaded, _, _, ⟨_, _, _, _, _, _, hShown, _⟩, hSaved⟩ :=
    check_reports_agree hCommand hExit
  cases hLoaded.symm.trans hLoad
  obtain ⟨shown, hShows, _⟩ := hShown rfl
  obtain ⟨content, hContent, hValue⟩ := hSaved path rfl
  obtain ⟨value, hHolds, hRead⟩ := hValue hTotal
  have hShows : ShowsFailures summary.failures shown := hSummary ▸ hShows
  obtain rfl := hShows.eq_failureTable hNames
  have hCounts : passedLine summary ++ ['\n'] = "10/11 scenarios passed\n".toList := by
    decide +kernel
  refine ⟨hExit, ⟨_, filedLine path ++ ['\n'], hShows, ?_, by decide +kernel, by decide +kernel⟩,
    content, value, hContent, hHolds, hRead.trans (congrArg some hSummary)⟩
  rw [hRun, hSummary, hCounts]

end Command

end PoolLogin
