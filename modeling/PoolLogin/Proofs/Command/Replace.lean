import PoolLogin.Proofs.Command.Agreement
import PoolLogin.Proofs.Command.Counts
import PoolLogin.Proofs.Log.Lines
import PoolLogin.Proofs.Log.Records

/-! A batch that writes its rows to a file. Nothing of an old file is left, so
what the file holds afterwards is told by the input and the options, and
running the same command again changes nothing. -/

namespace PoolLogin.Command

open FileTree PoolLogin.Action Log

/-! ### The file -/

/-- A path without ways up at which a file can be written, and at which the
file that it spells is found. -/
structure Replaceable (tree : FileTree) (path : Path) : Prop where
  straight : Path.upward ∉ path.names
  writable : tree.Writable path
  reached : tree.fileAt? path = tree.content? path

theorem replaceable_of_grounded {tree : FileTree} {path : Path} (hTree : tree.Grounded)
    (hPath : Proper path) (hClear : tree.Clear path) (hFile : tree.at? path ≠ some .directory) :
    Replaceable tree path where
  straight := hPath.straight
  writable := writable_of_clear hPath hClear hFile
  reached := hTree.fileAt?_eq hPath

/-- A file that can be replaced is replaced by rows, and can be replaced again. -/
theorem run_writeRows_of_replaceable {tree : FileTree} {path : Path} (h : Replaceable tree path)
    (format : Text) (rows : List Row) :
    ∃ after, (writeRows format path rows).run tree = (.ok (), after) ∧
      AgreesOff (some path) tree after ∧ Replaceable after path ∧
      after.content? path = rowsContent? format rows := by
  obtain ⟨after, hRun, hWritable, hContent⟩ := run_writeRows_of_writable h.writable
    (settled_of_straight h.straight h.reached) format rows
  rcases writeRows_cases format h.straight rows tree with ⟨fault, failed, hFail, _⟩ |
    ⟨written, hWritten, hAgrees, hFile⟩
  · rw [hRun] at hFail
    cases hFail
  · rw [hRun] at hWritten
    cases hWritten
    exact ⟨after, hRun, hAgrees, ⟨h.straight, hWritable, by rw [hFile h.reached, hContent]⟩,
      hContent⟩

/-- Rows make a content of their own, which is that of a new file to which they are appended. -/
theorem rowsContent?_eq_appended {path : Path} (hPath : Proper path)
    (hUp : path.names.all (· == Path.upward) = false) (format : Text) (rows : List Row) :
    rowsContent? format rows = ((appendRows format path rows).run {}).2.content? path := by
  have hEmpty : FileTree.Grounded {} := grounded_of_entries (by simp)
  have hNothing : FileTree.at? {} path = none := by
    rw [at?, hUp]
    rfl
  have hClear : FileTree.Clear {} path := by
    intro n _
    rw [fileAt?, at?]
    split_ifs <;> rfl
  obtain ⟨after, hRun⟩ := run_addAll_of_writable
    (writable_of_clear hPath hClear (by simp [hNothing])) (rows.map (addition format))
  have hNone : FileTree.content? {} path = none := by
    rw [← hEmpty.fileAt?_eq hPath, fileAt?_of_none hNothing]
  rw [run_appendRows, hRun, content?_of_addAll (hEmpty.settled hPath) hRun, hNone, rowsContent?_eq]

/-! ### The rows in it -/

/-- Whether a line is the JSON of a value. -/
def isJson (line : Bytes) : Bool :=
  ((Utf8.decode line).toOption.bind fun text => (Json.read text).toOption).isSome

/-- The number of rows in a file: of records under a header, or of lines if
all of them are JSON. Without a file there are none. -/
def rowCount? (format : Text) : Option Bytes → Option Nat
  | none => some 0
  | some content =>
    if format = "csv".toList then (records? content).map fun records => records.tail.length
    else if (lines content).all isJson then some (lines content).length
    else none

theorem isJson_write {value : Json} (h : Json.Readable 0 value) :
    isJson (Utf8.encode (Json.write .ascii value)) = true := by
  have hRead := Json.read_write_alone Json.legible_ascii h
  rw [isJson, Utf8.decode_encode]
  simp only [Except.toOption, Option.bind_some, hRead, Option.isSome_some]

section

variable {format : Text} {rows : List Row} (hRows : ∀ row ∈ rows, (row.map (·.1)).Nodup)

include hRows

theorem lines_rows (hFormat : format ≠ "csv".toList) :
    lines (Utf8.encode (rows.flatMap (rowText format))) =
      rows.map fun row => Utf8.encode (Json.write .ascii (.ofRow row)) := by
  have hText : rows.flatMap (rowText format) =
      (rows.map fun row => Json.write .ascii (.ofRow row)).flatMap (· ++ ['\n']) := by
    rw [List.flatMap_map]
    apply List.flatMap_congr
    intro row _
    rw [rowText, if_neg hFormat, jsonLine]
  rw [hText, lines_encode, List.map_map]
  · rfl
  · intro text hText
    obtain ⟨row, hRow, rfl⟩ := List.mem_map.mp hText
    exact Json.forall_writeAt Json.writes_ascii _ 0
      (Json.readable_ofRow (by decide) (hRows row hRow))

/-- As many rows are in a file as were written to it. -/
theorem rowCount?_rowsContent? :
    rowCount? format (rowsContent? format rows) = some rows.length := by
  cases rows with
  | nil => rfl
  | cons row rows =>
      rw [rowsContent?, rowCount?]
      by_cases hFormat : format = "csv".toList
      · rw [if_pos hFormat, hFormat, records?_encode, read_records]
        simp
      · have hJson : ∀ line ∈ (row :: rows).map fun row =>
            Utf8.encode (Json.write .ascii (.ofRow row)), isJson line = true := by
          intro line hLine
          obtain ⟨other, hOther, rfl⟩ := List.mem_map.mp hLine
          exact isJson_write (Json.readable_ofRow (by decide) (hRows other hOther))
        rw [if_neg hFormat, leadText, if_neg hFormat, List.nil_append, lines_rows hRows hFormat,
          if_pos (List.all_eq_true.mpr hJson), List.length_map]

end

/-! ### Runs -/

/-- What a batch leaves behind that has written rows: it says so, if it can. -/
def delivered (first : Text) (count : Nat) (output : Path) (tree : FileTree) : Outcome :=
  match Console.printWrapped (wroteLine count output) with
  | .ok last => { printed := first ++ last, tree, exit := .ok 0 }
  | .error fault => { printed := first, tree, exit := .error (.unprintable (.cut fault)) }

theorem tree_delivered (first : Text) (count : Nat) (output : Path) (tree : FileTree) :
    (delivered first count output tree).tree = tree := by
  rw [delivered]
  cases Console.printWrapped (wroteLine count output) <;> rfl

/-- What is said does not hang on the files. -/
theorem delivered_congr (first : Text) (count : Nat) (output : Path) (tree other : FileTree) :
    (delivered first count output tree).printed = (delivered first count output other).printed ∧
      (delivered first count output tree).exit = (delivered first count output other).exit := by
  rw [delivered, delivered]
  cases Console.printWrapped (wroteLine count output) <;> exact ⟨rfl, rfl⟩

section

variable {arguments : List Text} {input output : Path} {format : Text} {limit : Int}
  (hCommand : ofArguments? arguments = some (.batch input (some output) format limit))
  (hFormat : Text.lowercase format ∈ rowFormats) (hLimit : 0 ≤ limit)
  {content : Bytes} {text : Text} (hText : Utf8.decode content = .ok text) {first : Text}
  (hFirst : Console.printWrapped (readLine (namesIn text).length input) = .ok first)

include hCommand hFormat hLimit hText hFirst

/-- A batch replaces its output by the rows of its input. -/
theorem runArguments_of_replaceable {tree : FileTree} (hInput : tree.content? input = some content)
    (hOutput : Replaceable tree output) :
    ∃ after, runArguments tree arguments =
        delivered first (namesIn text).length output after ∧
      AgreesOff (some output) tree after ∧ Replaceable after output ∧
      after.content? output =
        rowsContent? (Text.lowercase format) (rowsOf limit (namesIn text)) := by
  obtain ⟨after, hRun, hAgrees, hAfter, hContent⟩ := run_writeRows_of_replaceable hOutput
    (Text.lowercase format) (rowsOf limit (namesIn text))
  refine ⟨after, ?_, hAgrees, hAfter, hContent⟩
  rw [runArguments_batch_written (knownFormat_of_lowercase_mem hFormat) hLimit
    (readNames_of_content? hInput hText) hFirst hRun hCommand, rowsOf, List.length_map]
  rfl

end

/-- A batch that cannot say that it has read its names stops before it changes anything. -/
theorem runArguments_batch_unread {tree : FileTree} {arguments : List Text} {input : Path}
    {output : Option Path} {format : Text} {limit : Int}
    (hCommand : ofArguments? arguments = some (.batch input output format limit))
    (hFormat : Text.lowercase format ∈ rowFormats) (hLimit : 0 ≤ limit) {names : List Text}
    (hNames : readNames tree input = .ok names) {fault : Text.CutFault}
    (hFirst : Console.printWrapped (readLine names.length input) = .error fault) :
    runArguments tree arguments =
      { printed := [], tree, exit := .error (.unprintable (.cut fault)) } := by
  rw [runArguments, hCommand]
  simp only [run, Run.outcome, run_runBatch, knownFormat_of_lowercase_mem hFormat,
    if_neg (Int.not_lt.mpr hLimit), hNames, hFirst]

/-- A batch that writes to a file leaves there what its input and its options
tell: the rows of the input, as they are appended to a new file one after
another, and no file if there are none. Nothing hangs on what was there
before, so a second run of the same command changes no file and prints the
same, unless the first has written over its input. The number of names that
is printed as read, the number of rows that is printed as written and the
number of rows in the file are the same. A line that tells such a number can
be printed of every path without joiners; a batch that cannot tell what it
has read stops there, and changes nothing. -/
theorem batch_output_replaced {tree : FileTree} {arguments : List Text} {input output : Path}
    {format : Text} {limit : Int}
    (hCommand : ofArguments? arguments = some (.batch input (some output) format limit))
    (hFormat : Text.lowercase format ∈ rowFormats) (hLimit : 0 ≤ limit)
    {content : Bytes} (hInput : tree.content? input = some content)
    {text : Text} (hText : Utf8.decode content = .ok text)
    (hTree : tree.Grounded) (hOutput : Proper output) (hClear : tree.Clear output)
    (hFile : tree.at? output ≠ some .directory) :
    let name := Text.lowercase format
    let count := (namesIn text).length
    let rows := rowsOf limit (namesIn text)
    let once := runArguments tree arguments
    let twice := runArguments once.tree arguments
    (Text.joiner ∉ input.toText →
      ∃ first, Console.printWrapped (readLine count input) = .ok first) ∧
    (∀ fault, Console.printWrapped (readLine count input) = .error fault →
      once = { printed := [], tree, exit := .error (.unprintable (.cut fault)) }) ∧
    ∀ first, Console.printWrapped (readLine count input) = .ok first →
      once.tree.content? output = rowsContent? name rows ∧
      rowsContent? name rows = ((appendRows name output rows).run {}).2.content? output ∧
      (once.tree.content? output = none ↔ namesIn text = []) ∧
      (tree.place input ≠ .ok output →
        AgreesOff none once.tree twice.tree ∧ twice.printed = once.printed ∧
        twice.exit = once.exit) ∧
      Counts (readCount count) (readLine count input) first ∧
      rowCount? name (once.tree.content? output) = some count ∧
      (Text.joiner ∉ output.toText →
        ∃ last, Console.printWrapped (wroteLine count output) = .ok last) ∧
      (∀ last, Console.printWrapped (wroteLine count output) = .ok last →
        Counts (wroteCount count) (wroteLine count output) last ∧
        once.printed = first ++ last ∧ once.exit = .ok 0) ∧
      ∀ fault, Console.printWrapped (wroteLine count output) = .error fault →
        once.printed = first ∧ once.exit = .error (.unprintable (.cut fault)) := by
  intro name count rows once twice
  refine ⟨exists_readLine count, fun fault hFault => runArguments_batch_unread hCommand hFormat
    hLimit (readNames_of_content? hInput hText) hFault, fun first hFirst => ?_⟩
  obtain ⟨after, hOnce, hAgrees, hAfter, hContent⟩ := runArguments_of_replaceable hCommand hFormat
    hLimit hText hFirst hInput (replaceable_of_grounded hTree hOutput hClear hFile)
  have hOnce : once = delivered first count output after := hOnce
  have hTreeOnce : once.tree = after := by rw [hOnce, tree_delivered]
  refine ⟨by rw [hTreeOnce, hContent], ?_, ?_, fun hOther => ?_, counts_readLine hFirst, ?_,
    exists_wroteLine count, fun last hLast => ⟨counts_wroteLine hLast, ?_⟩, fun fault hFault => ?_⟩
  · exact rowsContent?_eq_appended hOutput (not_upward_of_at? hFile) name rows
  · rw [hTreeOnce, hContent]
    cases namesIn text <;> simp [rowsOf, rowsContent?]
  · -- The first run leaves its output replaceable, so the second is a first run once more.
    obtain ⟨later, hTwice, hStays, hLater, hAgain⟩ := runArguments_of_replaceable hCommand hFormat
      hLimit hText hFirst (hAgrees.content?_of_ne hInput hOther) hAfter
    have hTwice : twice = delivered first count output later := by
      rw [← hTwice, ← hTreeOnce]
    have hSame : later.fileAt? output = after.fileAt? output := by
      rw [hLater.reached, hAgain, hAfter.reached, hContent]
    rw [hTwice, tree_delivered, hTreeOnce, hOnce]
    exact ⟨hStays.strengthen hSame, delivered_congr first count output later after⟩
  · rw [hTreeOnce, hContent, rowCount?_rowsContent? (nodup_keys_rowsOf limit (namesIn text)),
      rowsOf, List.length_map]
  · rw [hOnce, delivered, hLast]
    exact ⟨rfl, rfl⟩
  · rw [hOnce, delivered, hFault]
    exact ⟨rfl, rfl⟩

/-- Two names and a blank line, in place of an old file and then again. -/
theorem batch_output_replaced_of_two :
    let input := Path.ofText "names".toList
    let output := Path.ofText "rows".toList
    let tree : FileTree := { entries := [(input, .file (Utf8.encode "a.b@c\n\nd\n".toList)),
      (output, .file (Utf8.encode "old".toList))] }
    let line := ["batch", "names", "-o", "rows", "-f", "CSV"].map String.toList
    let once := runArguments tree line
    once.tree.content? output = some (Utf8.encode
      ("workername,primary_id,secondary_id,domain,suffix\r\n" ++
        "a.b@c,a,b,c,NULL\r\nd,d,NULL,NULL,NULL\r\n").toList) ∧
    rowCount? "csv".toList (once.tree.content? output) = some 2 ∧
    once.printed = "Read 2 worker names from names\nWrote 2 rows to rows\n".toList ∧
    (runArguments once.tree line).printed = once.printed := by
  intro input output tree line once
  have hCommand : ofArguments? line = some (.batch input (some output) "CSV".toList 255) := by
    decide +kernel
  have hText : Utf8.decode (Utf8.encode "a.b@c\n\nd\n".toList) = .ok "a.b@c\n\nd\n".toList :=
    eq_ok_of_toOption (by decide +kernel)
  obtain ⟨hReadable, _, hRead⟩ := batch_output_replaced hCommand (by decide +kernel)
    (by decide) (show tree.content? input = _ from rfl) hText
    (grounded_of_entries (by decide +kernel)) (by decide +kernel) (by decide +kernel)
    (by decide +kernel)
  obtain ⟨first, hFirst⟩ := hReadable (by decide +kernel)
  obtain ⟨hContent, _, _, hTwice, hFirstCount, hCount, hWritable, hWrote, _⟩ := hRead first hFirst
  obtain ⟨last, hLast⟩ := hWritable (by decide +kernel)
  obtain ⟨hLastCount, hPrinted, _⟩ := hWrote last hLast
  have hOther : tree.place input ≠ .ok output := by
    rw [show tree.place input = .ok input from eq_ok_of_toOption (by decide +kernel)]
    decide +kernel
  refine ⟨hContent.trans (by decide +kernel), hCount.trans (by decide +kernel), ?_,
    (hTwice hOther).2.1⟩
  rw [hPrinted, hFirstCount.whole (Text.forall_isPlain (by decide +kernel)) (by decide +kernel),
    hLastCount.whole (Text.forall_isPlain (by decide +kernel)) (by decide +kernel)]
  decide +kernel

/-! ### A path that cannot be told -/

/-- Four names, of which the first starts with two joiners and a wide character. Its clusters are
one cell too few to fill a line, and it is one cell too wide for one. -/
def unfitPath : Text :=
  [Text.joiner, Text.joiner, '表'] ++ List.replicate 240 'a' ++
    (List.replicate 3 ('/' :: List.replicate 252 'a')).flatten

theorem shownPath_unfitPath :
    Console.shownPath (Path.ofText unfitPath).toText = unfitPath := by decide +kernel

theorem unfit_unfitPath : Console.Unfit unfitPath where
  ink := List.forall_iff_forall_mem.mp (by decide +kernel)
  wide := by decide +kernel
  some := by decide +kernel
  narrow := by decide +kernel

/-- A batch cannot say that it has read a name from this path, so it stops and
leaves the old file that it should have replaced. -/
theorem old_output_stays_of_unfit :
    let input := Path.ofText unfitPath
    let output := Path.ofText "rows".toList
    let tree : FileTree := { entries :=
      [input.parent.parent.parent, input.parent.parent, input.parent].map (·, .directory) ++
        [(input, .file (Utf8.encode "a\n".toList)), (output, .file (Utf8.encode "old".toList))] }
    let once := runArguments tree
      (writeLine unfitPath "rows".toList "jsonl".toList "255".toList)
    tree.content? input = some (Utf8.encode "a\n".toList) ∧ tree.Grounded ∧ Proper output ∧
      tree.Clear output ∧ tree.at? output ≠ some .directory ∧
      once.printed = [] ∧ once.exit = .error (.unprintable (.cut .tooFewCells)) ∧
      once.tree.content? output = some (Utf8.encode "old".toList) ∧
      once.tree.content? output ≠ rowsContent? "jsonl".toList (rowsOf 255 ["a".toList]) := by
  intro input output tree once
  have hContent : tree.content? input = some (Utf8.encode "a\n".toList) := by decide +kernel
  have hCommand := ofArguments?_writeLine (limitOfText?_natural (n := 255) (by decide))
    (show usesFlag unfitPath = false by decide +kernel) (by decide +kernel)
    (show '\x00' ∉ "rows".toList by decide) "jsonl".toList
  have hText : Utf8.decode (Utf8.encode "a\n".toList) = .ok "a\n".toList :=
    eq_ok_of_toOption (by decide +kernel)
  have hNames : readNames tree input = .ok ["a".toList] :=
    (readNames_of_content? hContent hText).trans (congrArg Except.ok (by decide +kernel))
  have hUnfit : Console.Unfit (Console.shownPath input.toText) := by
    rw [shownPath_unfitPath]
    exact unfit_unfitPath
  have hOnce : once = { printed := [], tree, exit := .error (.unprintable (.cut .tooFewCells)) } :=
    runArguments_batch_unread hCommand (by decide +kernel) (by decide) hNames
      (readLine_error (by decide +kernel) hUnfit)
  rw [hOnce]
  exact ⟨hContent, grounded_of_entries (by decide +kernel), by decide +kernel, by decide +kernel,
    by decide +kernel, rfl, rfl, by decide +kernel, by decide +kernel⟩

end PoolLogin.Command
