import PoolLogin.Command.Run
import PoolLogin.Proofs.Action

/-! The parts of runs, one by one: what is printed is added to what has been
printed, and an action on the files is all that changes the tree. -/

namespace PoolLogin.Command

open PoolLogin.Action

namespace Run

variable {α : Type}

/-- A session with more text printed. -/
def Printed (s : Session) (text : Text) : Session := { s with printed := s.printed ++ text }

theorem run_check (result : Except Failure α) (s : Session) :
    (check result).run s = (result, s) := run_ofExcept result s

theorem run_printResult (text : Except Console.Fault Text) (s : Session) :
    (printResult text).run s = match text with
      | .ok text => (.ok (), Printed s text)
      | .error fault => (.error (.unprintable fault), s) := by
  rw [printResult, run_bind, run_check]
  cases text <;> rfl

theorem run_printLine (text : Text) (s : Session) :
    (printLine text).run s = match Console.printWrapped text with
      | .ok shown => (.ok (), Printed s shown)
      | .error fault => (.error (.unprintable (.cut fault)), s) := by
  rw [printLine, run_printResult]
  cases Console.printWrapped text <;> rfl

theorem run_act (action : FileTree.Act Unit) (s : Session) :
    (act action).run s = match action.run s.tree with
      | (.ok (), tree) => (.ok (), { s with tree })
      | (.error fault, tree) => (.error (.file fault), { s with tree }) := by
  simp only [act, run_bind, run_get]
  cases action.run s.tree with
  | mk result tree =>
      simp only [run_bind, run_set, run_check]
      cases result <;> rfl

section

variable {s t : Session}

theorem exists_of_printResult {text : Except Console.Fault Text}
    (h : (printResult text).run s = (.ok (), t)) :
    ∃ shown, text = .ok shown ∧ t = Printed s shown := by
  rw [run_printResult] at h
  cases text with
  | error fault => cases h
  | ok shown =>
      cases h
      exact ⟨shown, rfl, rfl⟩

theorem exists_of_printLine {text : Text} (h : (printLine text).run s = (.ok (), t)) :
    ∃ shown, Console.printWrapped text = .ok shown ∧ t = Printed s shown := by
  rw [run_printLine] at h
  split at h
  · next shown hShown =>
      cases h
      exact ⟨shown, hShown, rfl⟩
  · cases h

theorem exists_of_act {action : FileTree.Act Unit} (h : (act action).run s = (.ok (), t)) :
    ∃ tree, action.run s.tree = (.ok (), tree) ∧ t = { s with tree } := by
  rw [run_act] at h
  split at h
  · next tree hRun =>
      cases h
      exact ⟨tree, hRun, rfl⟩
  · cases h

end

end Run

/-! ### Parse -/

/-- A format is known by its name in small letters. -/
theorem knownFormat_of_lowercase_mem {known : List Text} {format : Text}
    (hKnown : Text.lowercase format ∈ known) :
    knownFormat known format = .ok (Text.lowercase format) :=
  if_pos (List.contains_iff_mem.mpr hKnown)

/-- A format goes by its name, if the letters of the name are small. -/
theorem knownFormat_of_mem {known : List Text} {format : Text}
    (hSmall : Text.lowercase format = format) (hKnown : format ∈ known) :
    knownFormat known format = .ok format := by
  have hName := knownFormat_of_lowercase_mem (by rwa [hSmall])
  rwa [hSmall] at hName

/-- Showing names changes no file; it fails only if it is asked for in a wrong way. -/
theorem run_runParse (names : List Text) (format : Text) (limit : Int) (s : Session) :
    (runParse names format limit).run s = match knownFormat shownFormats format with
      | .error failure => (.error failure, s)
      | .ok format =>
        if limit < 0 then (.error (.refused .negativeLimit), s)
        else (.ok 0, Run.Printed s (shown format (names.map (readName limit)))) := by
  rw [runParse, run_bind, Run.run_check]
  cases knownFormat shownFormats format with
  | error failure => rfl
  | ok format =>
      simp only [run_bind, Run.run_check, checkLimit]
      by_cases h : limit < 0
      · rw [if_pos h, if_pos h]
      · rw [if_neg h, if_neg h]
        rfl

/-! ### Batch -/

/-- The line that tells how many names have been read. -/
def readLine (count : Nat) (input : Path) : Text :=
  "Read ".toList ++ Numeral.natural count ++ " worker names from ".toList ++
    Console.shownPath input.toText

/-- The line that tells how many rows have been written. -/
def wroteLine (count : Nat) (output : Path) : Text :=
  "Wrote ".toList ++ Numeral.natural count ++ " rows to ".toList ++
    Console.shownPath output.toText

/-- The rows of names that are cut to a limit. -/
def rowsOf (limit : Int) (names : List Text) : List (List (Text × Option Text)) :=
  names.map fun name => rowOf (readName limit name)

/-- What is printed for rows that go to no file. -/
def printedRows (rows : List (List (Text × Option Text))) : Text :=
  rows.flatMap fun row => Console.print (Json.write .compact (.ofRow row))

/-- What becomes of rows: they are written or printed. -/
def deliver (format : Text) (rows : List (List (Text × Option Text))) : Option Path → Run Nat
  | some path => do
    Run.act (writeRows format path rows)
    Run.printLine (wroteLine rows.length path)
    return 0
  | none => do
    Run.print (printedRows rows)
    return 0

/-- Up to the line that tells how many names have been read no file is
changed; then the rows are delivered. -/
theorem run_runBatch (input : Path) (output : Option Path) (format : Text) (limit : Int)
    (s : Session) :
    (runBatch input output format limit).run s = match knownFormat rowFormats format with
      | .error failure => (.error failure, s)
      | .ok format =>
        if limit < 0 then (.error (.refused .negativeLimit), s)
        else match readNames s.tree input with
          | .error failure => (.error failure, s)
          | .ok names => match Console.printWrapped (readLine names.length input) with
            | .error fault => (.error (.unprintable (.cut fault)), s)
            | .ok first =>
              (deliver format (rowsOf limit names) output).run (Run.Printed s first) := by
  have hRun : runBatch input output format limit = (do
      let format ← Run.check (knownFormat rowFormats format)
      let limit ← Run.check (checkLimit limit)
      let names ← Run.check (readNames (← get).tree input)
      Run.printLine (readLine names.length input)
      deliver format (rowsOf limit names) output) := by
    cases output <;> rfl
  simp only [hRun, run_bind, Run.run_check, Run.run_printLine, run_get, checkLimit]
  cases knownFormat rowFormats format with
  | error failure => rfl
  | ok format =>
      by_cases h : limit < 0
      · simp only [if_pos h]
      · simp only [if_neg h]
        cases readNames s.tree input with
        | error failure => rfl
        | ok names =>
            simp only
            cases Console.printWrapped (readLine names.length input) <;> rfl

section

variable {tree : FileTree} {arguments : List Text} {input : Path} {format name : Text} {limit : Int}
  {names : List Text} {first : Text} (hFormat : knownFormat rowFormats format = .ok name)
  (hLimit : 0 ≤ limit) (hNames : readNames tree input = .ok names)
  (hFirst : Console.printWrapped (readLine names.length input) = .ok first)

include hFormat hLimit hNames hFirst

/-- A batch run that can read its names and say so delivers their rows. -/
theorem run_runBatch_of_ok (output : Option Path) :
    (runBatch input output format limit).run { tree } =
      (deliver name (rowsOf limit names) output).run { printed := first, tree } := by
  rw [run_runBatch, hFormat]
  simp only [if_neg (Int.not_lt.mpr hLimit), hNames, hFirst]
  rfl

/-- Rows that can be written are, and the run says so if it can. -/
theorem runArguments_batch_written {output : Path} {after : FileTree}
    (hRows : (writeRows name output (rowsOf limit names)).run tree = (.ok (), after))
    (hCommand : ofArguments? arguments = some (.batch input (some output) format limit)) :
    runArguments tree arguments =
      match Console.printWrapped (wroteLine (rowsOf limit names).length output) with
      | .ok last => { printed := first ++ last, tree := after, exit := .ok 0 }
      | .error fault =>
        { printed := first, tree := after, exit := .error (.unprintable (.cut fault)) } := by
  rw [runArguments, hCommand]
  simp only [run, Run.outcome, run_runBatch_of_ok hFormat hLimit hNames hFirst (some output),
    deliver, run_bind, Run.run_act, Run.run_printLine, hRows]
  cases Console.printWrapped (wroteLine (rowsOf limit names).length output) <;> rfl

end

/-! ### Check -/

/-- The line that tells how many scenarios have passed. -/
def passedLine (summary : Scenario.Summary) : Text :=
  Numeral.natural summary.passed ++ '/' :: Numeral.natural summary.total ++
    " scenarios passed".toList

/-- The line that tells that a summary has been written. -/
def filedLine (output : Path) : Text :=
  "Wrote check summary to ".toList ++ Console.shownPath output.toText

/-- What becomes of a summary: it is written to a file, if there is one to write it to. -/
def file (summary : Scenario.Summary) : Option Path → Run Nat
  | some path => do
    writeSummary path summary
    Run.printLine (filedLine path)
    return if summary.ok then 0 else 1
  | none => return if summary.ok then 0 else 1

/-- Failures and the count are printed before the summary is filed. -/
theorem reportCheck_eq (summary : Scenario.Summary) (output : Option Path) :
    reportCheck summary output = (do
      Run.printResult (failureText summary.failures)
      Run.printLine (passedLine summary)
      file summary output) := by
  cases output <;> rfl

theorem run_reportCheck (summary : Scenario.Summary) (output : Option Path) (s : Session) :
    (reportCheck summary output).run s = match failureText summary.failures with
      | .error fault => (.error (.unprintable fault), s)
      | .ok table => match Console.printWrapped (passedLine summary) with
        | .error fault => (.error (.unprintable (.cut fault)), Run.Printed s table)
        | .ok line => (file summary output).run (Run.Printed (Run.Printed s table) line) := by
  simp only [reportCheck_eq, run_bind, Run.run_printResult, Run.run_printLine]
  cases failureText summary.failures with
  | error fault => rfl
  | ok table =>
      simp only
      cases Console.printWrapped (passedLine summary) <;> rfl

/-- The built-in scenarios come first, and those of the file are read even if they are none. -/
theorem scenarios_eq (tree : FileTree) (cases : Option Path) (builtin : Bool) :
    scenarios tree cases builtin = (do
      let loaded ← cases.elim (.ok []) (loadCases tree)
      let all := (if builtin then Scenario.builtin else []) ++ loaded
      if all = [] then .error (.refused .noScenarios) else .ok all) := by
  have hEmpty : ∀ all : List Scenario, (all.isEmpty = true) = (all = []) :=
    fun _ => propext List.isEmpty_iff
  cases cases <;> simp only [scenarios, hEmpty] <;> rfl

theorem run_runCheck (cases : Option Path) (builtin : Bool) (output : Option Path) (s : Session) :
    (runCheck cases builtin output).run s = match scenarios s.tree cases builtin with
      | .error failure => (.error failure, s)
      | .ok all => (reportCheck (Scenario.check all) output).run s := by
  simp only [runCheck, run_bind, run_get, Run.run_check]
  cases scenarios s.tree cases builtin <;> rfl

/-- A check that can print what it found goes on to file it. -/
theorem runArguments_check {tree : FileTree} {arguments : List Text} {cases : Option Path}
    {builtin : Bool} {output : Option Path}
    (hCommand : ofArguments? arguments = some (.check cases builtin output))
    {all : List Scenario} (hAll : scenarios tree cases builtin = .ok all) {table line : Text}
    (hTable : failureText (Scenario.check all).failures = .ok table)
    (hLine : Console.printWrapped (passedLine (Scenario.check all)) = .ok line) :
    runArguments tree arguments =
      Run.outcome (do Run.print (table ++ line); file (Scenario.check all) output) tree := by
  rw [runArguments, hCommand]
  simp only [run, Run.outcome, run_runCheck, hAll, run_reportCheck, hTable, hLine]
  rfl

end PoolLogin.Command
