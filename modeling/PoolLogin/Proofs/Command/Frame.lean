import PoolLogin.Proofs.Command.Rows
import PoolLogin.Proofs.Command.Session
import PoolLogin.Proofs.Console.Wrap

/-! What a run does to the files. It changes at most the one that it is told
to write, and a run that fails leaves all of them as they were. -/

namespace PoolLogin.Command

open FileTree PoolLogin.Action

/-- The file that a command is told to write. -/
def output? : Command → Option Path
  | .parse _ _ _ => none
  | .batch _ output _ _ => output
  | .check _ _ output => output

/-- Whether a run has failed because the console cannot show a line. The line may be the last
one, which tells what has been written. -/
def Failure.isUnprintable : Failure → Bool
  | .unprintable _ => true
  | _ => false

/-- A run off a target: no file changes but the target, and if it fails, none at all. -/
structure Framed (target : Option Path) (before : FileTree) (exit : Except Failure Nat)
    (after : FileTree) : Prop where
  agrees : AgreesOff target before after
  failed : ∀ failure, exit = .error failure → ¬failure.isUnprintable → AgreesOff none before after

namespace Framed

variable {target : Option Path} {tree after : FileTree}

/-- A run that changes no file. -/
theorem of_none {exit : Except Failure Nat} (h : AgreesOff none tree after) :
    Framed target tree exit after :=
  ⟨h.weaken target, fun _ _ _ => h⟩

theorem refl (target : Option Path) (tree : FileTree) (exit : Except Failure Nat) :
    Framed target tree exit tree :=
  of_none (AgreesOff.refl none tree)

theorem of_ok {code : Nat} (h : AgreesOff target tree after) :
    Framed target tree (.ok code) after :=
  ⟨h, fun _ hExit => by cases hExit⟩

theorem of_unprintable {fault : Console.Fault} (h : AgreesOff target tree after) :
    Framed target tree (.error (.unprintable fault)) after := by
  refine ⟨h, ?_⟩
  rintro failure hExit hPrintable
  cases hExit
  exact absurd rfl hPrintable

end Framed

/-! ### Parse and batch -/

theorem framed_runParse (names : List Text) (format : Text) (limit : Int) (s : Session) :
    Framed none s.tree ((runParse names format limit).run s).1
      ((runParse names format limit).run s).2.tree := by
  rw [run_runParse]
  cases knownFormat shownFormats format with
  | error failure => exact Framed.refl none s.tree _
  | ok format =>
      simp only
      split_ifs
      · exact Framed.refl none s.tree _
      · exact Framed.refl none s.tree _

/-- Delivered rows are the only content of the file that they go to. -/
theorem deliver_cases (format : Text) (rows : List Row) {output : Option Path}
    (hOutput : ∀ path, output = some path → Path.upward ∉ path.names) (s : Session) :
    ∃ exit t, (deliver format rows output).run s = (exit, t) ∧
      Framed output s.tree exit t.tree ∧
      ∀ path code, output = some path → exit = .ok code →
        s.tree.fileAt? path = s.tree.content? path →
        t.tree.fileAt? path = rowsContent? format rows := by
  cases output with
  | none => exact ⟨.ok 0, _, rfl, Framed.refl none s.tree _, by simp⟩
  | some path =>
      have hPath := hOutput path rfl
      simp only [deliver, run_bind, Run.run_act, Run.run_printLine]
      rcases writeRows_cases format hPath rows s.tree with
        ⟨fault, after, hRun, hAgrees⟩ | ⟨after, hRun, hAgrees, hRows⟩
      · rw [hRun]
        exact ⟨_, _, rfl, Framed.of_none hAgrees, by simp⟩
      · rw [hRun]
        cases Console.printWrapped (wroteLine rows.length path) with
        | error fault => exact ⟨_, _, rfl, Framed.of_unprintable hAgrees, by simp⟩
        | ok line =>
            refine ⟨_, _, rfl, Framed.of_ok hAgrees, ?_⟩
            intro other code hOther _ hReached
            cases hOther
            exact hRows hReached

/-- A batch run reads its names from the files as they were. -/
theorem runBatch_cases (input : Path) {output : Option Path} (format : Text) (limit : Int)
    (hOutput : ∀ path, output = some path → Path.upward ∉ path.names) (s : Session) :
    ∃ exit t, (runBatch input output format limit).run s = (exit, t) ∧
      Framed output s.tree exit t.tree ∧
      ∀ path code, output = some path → exit = .ok code →
        ∃ names, readNames s.tree input = .ok names ∧
          (s.tree.fileAt? path = s.tree.content? path → t.tree.fileAt? path =
            rowsContent? (Text.lowercase format) (rowsOf limit names)) := by
  rw [run_runBatch]
  cases hFormat : knownFormat rowFormats format with
  | error failure => exact ⟨_, _, rfl, Framed.refl output s.tree _, by simp⟩
  | ok name =>
      have hName : name = Text.lowercase format := by
        simp only [knownFormat] at hFormat
        split_ifs at hFormat
        exact (Except.ok.inj hFormat).symm
      simp only
      split_ifs
      · exact ⟨_, _, rfl, Framed.refl output s.tree _, by simp⟩
      cases readNames s.tree input with
      | error failure => exact ⟨_, _, rfl, Framed.refl output s.tree _, by simp⟩
      | ok names =>
          simp only
          cases Console.printWrapped (readLine names.length input) with
          | error fault => exact ⟨_, _, rfl, Framed.refl output s.tree _, by simp⟩
          | ok first =>
              obtain ⟨exit, t, hRun, hFramed, hRows⟩ := deliver_cases name
                (rowsOf limit names) hOutput (Run.Printed s first)
              refine ⟨exit, t, hRun, hFramed, ?_⟩
              intro path code hPath hExit
              refine ⟨names, rfl, fun hReached => ?_⟩
              rw [hRows path code hPath hExit hReached, hName]

/-! ### Check -/

/-- The content of a summary file. -/
def summaryContent (summary : Scenario.Summary) : Bytes :=
  Utf8.encode (Json.write .indented (summaryJson summary))

/-- A summary without surrogates revises its file; another one changes no file. -/
theorem run_writeSummary (path : Path) (summary : Scenario.Summary) (s : Session) :
    (writeSummary path summary).run s =
      if (summaryJson summary).isScalar then
        (Run.act (revise path fun _ => summaryContent summary)).run s
      else
        (do Run.act (makeDirectories path.parent); throw .unwritable : Run Unit).run s := by
  simp only [writeSummary, run_bind, Run.run_act, revise]
  cases (makeDirectories path.parent).run s.tree with
  | mk result tree =>
      cases result with
      | error fault => split_ifs <;> rfl
      | ok _ =>
          cases (summaryJson summary).isScalar with
          | true =>
              simp only [Bool.not_true, Bool.false_eq_true, ↓reduceIte, run_get]
              exact Run.run_act _ _
          | false => rfl

theorem writeSummary_cases {path : Path} (hPath : Path.upward ∉ path.names)
    (summary : Scenario.Summary) (s : Session) :
    (∃ failure t, (writeSummary path summary).run s = (.error failure, t) ∧
      AgreesOff none s.tree t.tree) ∨
    ∃ t, (writeSummary path summary).run s = (.ok (), t) ∧ AgreesOff (some path) s.tree t.tree ∧
      t.tree.fileAt? path = some (summaryContent summary) := by
  rw [run_writeSummary]
  split_ifs
  · rw [Run.run_act]
    rcases revise_cases (f := fun _ => summaryContent summary) hPath s.tree with
      ⟨fault, after, hRun, hAgrees⟩ | ⟨after, hRun, hAgrees, _, hFile⟩
    · rw [hRun]
      exact Or.inl ⟨_, _, rfl, hAgrees⟩
    · rw [hRun]
      exact Or.inr ⟨_, rfl, hAgrees, fileAt?_of_file hFile⟩
  · have hKeeps := keepsFiles_makeDirectories path.parent s.tree
    rw [run_bind, Run.run_act]
    cases hRun : (makeDirectories path.parent).run s.tree with
    | mk result tree =>
        rw [hRun] at hKeeps
        cases result with
        | error fault => exact Or.inl ⟨_, _, rfl, hKeeps⟩
        | ok _ => exact Or.inl ⟨_, _, rfl, hKeeps⟩

theorem file_cases {output : Option Path}
    (hOutput : ∀ path, output = some path → Path.upward ∉ path.names)
    (summary : Scenario.Summary) (s : Session) :
    ∃ exit t, (file summary output).run s = (exit, t) ∧ Framed output s.tree exit t.tree ∧
      ∀ path code, output = some path → exit = .ok code →
        t.tree.fileAt? path = some (summaryContent summary) := by
  cases output with
  | none => exact ⟨_, _, rfl, Framed.refl none s.tree _, by simp⟩
  | some path =>
      simp only [file, run_bind, Run.run_printLine]
      rcases writeSummary_cases (hOutput path rfl) summary s with
        ⟨failure, t, hRun, hAgrees⟩ | ⟨t, hRun, hAgrees, hFile⟩
      · rw [hRun]
        exact ⟨_, _, rfl, Framed.of_none hAgrees, by simp⟩
      · rw [hRun]
        cases Console.printWrapped (filedLine path) with
        | error fault => exact ⟨_, _, rfl, Framed.of_unprintable hAgrees, by simp⟩
        | ok line =>
          refine ⟨_, _, rfl, Framed.of_ok hAgrees, ?_⟩
          intro other code hOther _
          cases hOther
          exact hFile

/-- A check reads its scenarios from the files as they were. -/
theorem runCheck_cases (cases : Option Path) (builtin : Bool) {output : Option Path}
    (hOutput : ∀ path, output = some path → Path.upward ∉ path.names) (s : Session) :
    ∃ exit t, (runCheck cases builtin output).run s = (exit, t) ∧
      Framed output s.tree exit t.tree ∧
      ∀ path code, output = some path → exit = .ok code →
        ∃ all, scenarios s.tree cases builtin = .ok all ∧
          t.tree.fileAt? path = some (summaryContent (Scenario.check all)) := by
  rw [run_runCheck]
  cases scenarios s.tree cases builtin with
  | error failure => exact ⟨_, _, rfl, Framed.refl output s.tree _, by simp⟩
  | ok all =>
      simp only [run_reportCheck]
      cases failureText (Scenario.check all).failures with
      | error fault => exact ⟨_, _, rfl, Framed.refl output s.tree _, by simp⟩
      | ok table =>
          simp only
          cases Console.printWrapped (passedLine (Scenario.check all)) with
          | error fault => exact ⟨_, _, rfl, Framed.refl output s.tree _, by simp⟩
          | ok line =>
              obtain ⟨exit, t, hRun, hFramed, hFile⟩ := file_cases hOutput (Scenario.check all)
                (Run.Printed (Run.Printed s table) line)
              refine ⟨exit, t, hRun, hFramed, ?_⟩
              intro path code hPath hExit
              exact ⟨all, rfl, hFile path code hPath hExit⟩

/-! ### Runs -/

/-- Where two paths lead to one file, the second reaches what stands at itself. -/
theorem fileAt?_of_same_place {tree : FileTree} {input output : Path} {content : Bytes}
    (hOutput : Path.upward ∉ output.names) (hSame : tree.place output = tree.place input)
    (hContent : tree.content? input = some content) :
    tree.fileAt? output = tree.content? output := by
  obtain ⟨place, hPlace, _⟩ := place_of_content? hContent
  rw [hPlace] at hSame
  obtain rfl : place = output := place_eq_self hOutput hSame
  rw [content?_of_place hSame]

theorem content?_of_readNames {tree : FileTree} {input : Path} {names : List Text}
    (h : readNames tree input = .ok names) : ∃ content, tree.content? input = some content := by
  simp only [readNames, findFile] at h
  cases hContent : tree.content? input with
  | some content => exact ⟨content, rfl⟩
  | none =>
      rw [hContent] at h
      split at h
      · cases h
      · cases h
      · next hFound =>
          split at hFound
          · cases hFound
          · cases hFound

/-- Every run on every tree changes at most the file that it is told to write,
keeps all directories, and changes no file at all if it fails, unless all that
fails is to show a line. If it is told to write over the file that it reads,
it still tells of what was read. -/
theorem runArguments_frame (tree : FileTree) (arguments : List Text)
    (hOutput : ∀ command path, ofArguments? arguments = some command →
      command.output? = some path → Path.upward ∉ path.names) :
    let outcome := runArguments tree arguments
    let target := (ofArguments? arguments).bind output?
    AgreesOff target tree outcome.tree ∧
    (∀ failure, outcome.exit = .error failure → ¬failure.isUnprintable →
      AgreesOff none tree outcome.tree) ∧
    (∀ input output format limit code,
      ofArguments? arguments = some (.batch input (some output) format limit) →
      tree.place output = tree.place input → outcome.exit = .ok code →
      ∃ names, readNames tree input = .ok names ∧ outcome.tree.fileAt? output =
        rowsContent? (Text.lowercase format) (rowsOf limit names)) ∧
    (∀ cases builtin output code,
      ofArguments? arguments = some (.check (some cases) builtin (some output)) →
      tree.place output = tree.place cases → outcome.exit = .ok code →
      ∃ all, scenarios tree (some cases) builtin = .ok all ∧
        outcome.tree.fileAt? output = some (summaryContent (Scenario.check all))) := by
  simp only [runArguments]
  cases hCommand : ofArguments? arguments with
  | none =>
      refine ⟨AgreesOff.refl none tree, fun _ _ _ => AgreesOff.refl none tree, ?_, ?_⟩ <;> simp
  | some command =>
      cases command with
      | parse names format limit =>
          have hFramed := framed_runParse names format limit { tree }
          exact ⟨hFramed.agrees, hFramed.failed, by simp, by simp⟩
      | batch input output format limit =>
          have hPath : ∀ path, output = some path → Path.upward ∉ path.names :=
            fun path h => hOutput _ path hCommand h
          obtain ⟨exit, t, hRun, hFramed, hRows⟩ := runBatch_cases input format limit
            hPath { tree }
          simp only [run, Run.outcome, hRun]
          refine ⟨hFramed.agrees, hFramed.failed, ?_, by simp⟩
          intro input' output' format' limit' code hEq hSame hExit
          cases hEq
          obtain ⟨names, hNames, hContent⟩ := hRows output' code rfl hExit
          obtain ⟨content, hInput⟩ := content?_of_readNames hNames
          exact ⟨names, hNames, hContent (fileAt?_of_same_place (hPath _ rfl) hSame hInput)⟩
      | check cases builtin output =>
          have hPath : ∀ path, output = some path → Path.upward ∉ path.names :=
            fun path h => hOutput _ path hCommand h
          obtain ⟨exit, t, hRun, hFramed, hFile⟩ := runCheck_cases cases builtin
            hPath { tree }
          simp only [run, Run.outcome, hRun]
          refine ⟨hFramed.agrees, hFramed.failed, by simp, ?_⟩
          intro cases' builtin' output' code hEq _ hExit
          cases hEq
          exact hFile output' code rfl hExit

/-- A batch of two names and a blank line that replaces its own input. -/
theorem runArguments_onto_input :
    let path := Path.ofText "names".toList
    let tree : FileTree := { entries := [(path, .file (Utf8.encode "a.b@c\n\nd\n".toList))] }
    let outcome := runArguments tree (["batch", "names", "-o", "names"].map String.toList)
    let keys := ["workername", "primary_id", "secondary_id", "domain", "suffix"].map String.toList
    let texts := [["a.b@c", "a", "b", "c"].map (some ∘ String.toList) ++ [none],
      ["d", "d"].map (some ∘ String.toList) ++ [none, none, none]]
    outcome.exit = .ok 0 ∧ readNames tree path = .ok ["a.b@c".toList, ['d']] ∧
    outcome.tree.fileAt? path =
      rowsContent? "jsonl".toList (texts.map fun values => keys.zip values) := by
  intro path tree outcome keys texts
  have hCommand : ofArguments? (["batch", "names", "-o", "names"].map String.toList) =
      some (.batch path (some path) "jsonl".toList 255) := by decide +kernel
  have hNames : readNames tree path = .ok ["a.b@c".toList, ['d']] :=
    eq_ok_of_toOption (by decide +kernel)
  have hWritten : ∃ after, (writeRows "jsonl".toList path
      (rowsOf 255 ["a.b@c".toList, ['d']])).run tree = (.ok (), after) := by
    have hRun : ((writeRows "jsonl".toList path
        (rowsOf 255 ["a.b@c".toList, ['d']])).run tree).1.toOption = some () := by decide +kernel
    exact ⟨_, Prod.ext (eq_ok_of_toOption hRun) rfl⟩
  have hSmall : Text.lowercase "jsonl".toList = "jsonl".toList := by decide +kernel
  have hFormat : knownFormat rowFormats "jsonl".toList = .ok "jsonl".toList :=
    knownFormat_of_mem hSmall (by decide)
  have hExit : outcome.exit = .ok 0 := by
    obtain ⟨after, hWritten⟩ := hWritten
    obtain ⟨first, hFirst⟩ := Console.printWrapped_ok
      (show Text.joiner ∉ readLine 2 path by decide +kernel)
    obtain ⟨last, hLast⟩ := Console.printWrapped_ok
      (show Text.joiner ∉ wroteLine 2 path by decide +kernel)
    have hOutcome := runArguments_batch_written hFormat (by decide) hNames hFirst hWritten hCommand
    rw [show (rowsOf 255 ["a.b@c".toList, ['d']]).length = 2 from rfl, hLast] at hOutcome
    exact congrArg Outcome.exit hOutcome
  have hStraight : ∀ command output,
      ofArguments? (["batch", "names", "-o", "names"].map String.toList) = some command →
      command.output? = some output → Path.upward ∉ output.names := by
    intro command output hEq hOutput
    rw [hCommand] at hEq
    cases hEq
    cases hOutput
    decide
  obtain ⟨_, _, hOnto, _⟩ := runArguments_frame tree _ hStraight
  obtain ⟨names, hRead, hFile⟩ := hOnto path path "jsonl".toList 255 0 hCommand rfl hExit
  rw [hNames] at hRead
  cases hRead
  have hRows : rowsOf 255 ["a.b@c".toList, ['d']] = texts.map fun values => keys.zip values := by
    decide +kernel
  refine ⟨hExit, hNames, ?_⟩
  rw [hFile, hRows, hSmall]

end PoolLogin.Command
