import PoolLogin.Command.Arguments
import PoolLogin.Console.Fault
import PoolLogin.Console.Markup
import PoolLogin.Console.Table
import PoolLogin.Log
import PoolLogin.Login.Report
import PoolLogin.Scenario.Builtin
import PoolLogin.Scenario.Check
import PoolLogin.Scenario.Load

/-!
What the commands do: what they print, which files they change, and how they end. A run is a
function of the file tree, and all faults that options and inputs can have are found before a file
is changed. A run that fails keeps what it has printed and changed before.
-/

namespace PoolLogin.Command

/-- Why an option or an input is refused. -/
inductive Refusal where
  | format (given : Text) (known : List Text)
  | negativeLimit
  | noInput (path : Path)
  | inputNotUtf8 (path : Path)
  | noCases (path : Path)
  | faultyCases (fault : Scenario.LoadFault)
  | noScenarios
  deriving Repr

/-- Why a run ends early. -/
inductive Failure where
  /-- The command line asks for no command. -/
  | usage
  | refused (refusal : Refusal)
  /-- A file cannot be looked for or changed. -/
  | file (fault : FileTree.Fault)
  /-- A case file cannot be read to its end. -/
  | broken (fault : Scenario.LoadFault)
  | unprintable (fault : Console.Fault)
  /-- What is to be written holds surrogates. -/
  | unwritable
  deriving Repr

/-- What a run leaves behind. -/
structure Outcome where
  printed : Text
  tree : FileTree
  /-- The number that the run exits with, or why it ended early. -/
  exit : Except Failure Nat

/-- What a run has printed so far, and the file tree that it has reached. -/
structure Session where
  printed : Text := []
  tree : FileTree

/-- A run, or a part of one. -/
abbrev Run := ExceptT Failure (StateM Session)

namespace Run

/-- Go on with a result. -/
def check {α : Type} (result : Except Failure α) : Run α := ofExcept result

/-- Print a text as it is. -/
def print (text : Text) : Run Unit := modify fun s => { s with printed := s.printed ++ text }

/-- Print a text, if it can be printed. -/
def printResult (text : Except Console.Fault Text) : Run Unit := do
  print (← check (text.mapError .unprintable))

/-- Print a line, broken where it is too wide. -/
def printLine (text : Text) : Run Unit := printResult ((Console.printWrapped text).mapError .cut)

def act (action : FileTree.Act Unit) : Run Unit := do
  let s ← get
  let (result, tree) := action.run s.tree
  set { s with tree }
  check (result.mapError .file)

/-- What a run leaves behind that starts with a file tree. -/
def outcome (run : Run Nat) (tree : FileTree) : Outcome :=
  let (exit, session) := run.run { tree }
  { printed := session.printed, tree := session.tree, exit }

end Run

def shownFormats : List Text := ["json".toList, "text".toList]

def rowFormats : List Text := ["csv".toList, "jsonl".toList]

/-- A format by its name, whatever the case of its letters. -/
def knownFormat (known : List Text) (format : Text) : Except Failure Text :=
  let name := Text.lowercase format
  if known.contains name then .ok name else .error (.refused (.format format known))

def checkLimit (limit : Int) : Except Failure Int :=
  if limit < 0 then .error (.refused .negativeLimit) else .ok limit

/-- The worker names in a text: its lines that are not blank. -/
def namesIn (text : Text) : List Text :=
  (Text.splitLines (Text.unifyNewlines text)).filter fun line => !Text.allBlank line

def readNames (tree : FileTree) (path : Path) : Except Failure (List Text) :=
  match tree.findFile path with
  | .error fault => .error (.file fault)
  | .ok none => .error (.refused (.noInput path))
  | .ok (some content) => match Utf8.decode content with
    | .ok text => .ok (namesIn text)
    | .error _ => .error (.refused (.inputNotUtf8 path))

/-- A worker name as it is read: cut to the limit, and with its parts. -/
def readName (limit : Int) (name : Text) : Text × Login :=
  let name := Login.truncate limit name
  (name, Login.parse name)

/-- The row of a worker name with its parts. -/
def rowOf (entry : Text × Login) : List (Text × Option Text) := Login.row entry.1 entry.2

/-! ### Parse -/

/-- What is printed for worker names in a format. -/
def shown (format : Text) (entries : List (Text × Login)) : Text :=
  if format = "text".toList then
    entries.flatMap fun (name, login) => Console.print (Login.dump name login)
  else if entries.isEmpty then []
  else Console.print (Json.write .indented (.arr (entries.map fun entry => .ofRow (rowOf entry))))

def runParse (names : List Text) (format : Text) (limit : Int) : Run Nat := do
  let format ← Run.check (knownFormat shownFormats format)
  let limit ← Run.check (checkLimit limit)
  Run.print (shown format (names.map (readName limit)))
  return 0

/-! ### Batch -/

/-- Append a row to a log in a format. -/
def appendRow (format : Text) (path : Path) (row : List (Text × Option Text)) :
    FileTree.Act Unit :=
  if format = "csv".toList then
    Log.appendCsv path (row.map fun (key, value) => (key, .ofOption value))
  else Log.appendJson path (.ofRow row)

/-- Append rows to a log one by one, up to the first that fails. -/
def appendRows (format : Text) (path : Path) : List (List (Text × Option Text)) →
    FileTree.Act Unit
  | [] => return ()
  | row :: rows => do
    appendRow format path row
    appendRows format path rows

/-- Write rows to a file, which replaces what was there. -/
def writeRows (format : Text) (path : Path) (rows : List (List (Text × Option Text))) :
    FileTree.Act Unit := do
  FileTree.remove path
  appendRows format path rows

def runBatch (input : Path) (output : Option Path) (format : Text) (limit : Int) : Run Nat := do
  let format ← Run.check (knownFormat rowFormats format)
  let limit ← Run.check (checkLimit limit)
  let names ← Run.check (readNames (← get).tree input)
  Run.printLine ("Read ".toList ++ Numeral.natural names.length ++ " worker names from ".toList ++
    Console.shownPath input.toText)
  let rows := names.map fun name => rowOf (readName limit name)
  match output with
  | some path => do
    Run.act (writeRows format path rows)
    Run.printLine ("Wrote ".toList ++ Numeral.natural rows.length ++ " rows to ".toList ++
      Console.shownPath path.toText)
  | none =>
    Run.print (rows.flatMap fun row => Console.print (Json.write .compact (.ofRow row)))
  return 0

/-! ### Check -/

/-- How a run ends that cannot load its scenarios. -/
def loadFailure (fault : Scenario.LoadFault) : Failure :=
  if fault.isRefusal then .refused (.faultyCases fault) else .broken fault

def loadCases (tree : FileTree) (path : Path) : Except Failure (List Scenario) :=
  match tree.findFile path with
  | .error fault => .error (.file fault)
  | .ok none => .error (.refused (.noCases path))
  | .ok (some content) => (Scenario.ofContent path content).mapError loadFailure

/-- The scenarios that a check is about: the built-in ones, and then those of a file. -/
def scenarios (tree : FileTree) (cases : Option Path) (builtin : Bool) :
    Except Failure (List Scenario) := do
  let first := if builtin then Scenario.builtin else []
  let loaded ← match cases with
    | none => pure []
    | some path => loadCases tree path
  let all := first ++ loaded
  if all.isEmpty then throw (.refused .noScenarios)
  return all

/-- The table of failures, given the worker names as they are to be shown. -/
def failureTable (failures : List Scenario.Failure) (names : List Text) : Console.Table :=
  { title := "Scenario failures".toList
    headings := ["Worker name", "Field", "Expected", "Found"].map String.toList
    rows := (failures.zip names).map fun (failure, name) =>
      [name, failure.field.key, Text.quotedOption failure.expected,
        Text.quotedOption failure.found] }

/-- What is printed for failures. Texts in the table are quoted, apart from the worker names. -/
def failureText (failures : List Scenario.Failure) : Except Console.Fault Text :=
  if failures.isEmpty then .ok []
  else
    Console.printWide (failures.map (·.name)) fun names =>
      (failureTable failures names).print

def summaryJson (summary : Scenario.Summary) : Json :=
  .ofMembers [("total".toList, .int summary.total), ("passed".toList, .int summary.passed),
    ("failures".toList, .arr (summary.failures.map fun failure =>
      .ofMembers [(Login.nameKey, .string failure.name),
        ("field".toList, .ofText failure.field.key),
        ("expected".toList, .ofOption .string failure.expected),
        ("found".toList, .ofOption .string failure.found)]))]

def writeSummary (path : Path) (summary : Scenario.Summary) : Run Unit := do
  Run.act (FileTree.makeDirectories path.parent)
  let json := summaryJson summary
  if !json.isScalar then throw .unwritable
  Run.act (FileTree.write path (Utf8.encode (Json.write .indented json)))

/-- Report what a check found. The run exits with one if a scenario failed. -/
def reportCheck (summary : Scenario.Summary) (output : Option Path) : Run Nat := do
  Run.printResult (failureText summary.failures)
  Run.printLine (Numeral.natural summary.passed ++ '/' :: Numeral.natural summary.total ++
    " scenarios passed".toList)
  match output with
  | none => pure ()
  | some path => do
    writeSummary path summary
    Run.printLine ("Wrote check summary to ".toList ++ Console.shownPath path.toText)
  return if summary.ok then 0 else 1

def runCheck (cases : Option Path) (builtin : Bool) (output : Option Path) : Run Nat := do
  let all ← Run.check (scenarios (← get).tree cases builtin)
  reportCheck (Scenario.check all) output

/-! ### Runs -/

def run : Command → Run Nat
  | .parse names format limit => runParse names format limit
  | .batch input output format limit => runBatch input output format limit
  | .check cases builtin output => runCheck cases builtin output

/-- Run a command line on a file tree. -/
def runArguments (tree : FileTree) (arguments : List Text) : Outcome :=
  Run.outcome
    (match ofArguments? arguments with
    | some command => run command
    | none => throw .usage) tree

def Refusal.message : Refusal → Text
  | format given known =>
    "Unsupported format '".toList ++ given ++ "'. Choose from ".toList ++ '\x7b' ::
      Text.joinWith [',', ' '] (known.map Text.quoted) ++ ['\x7d', '.']
  | negativeLimit => "--max-length must be zero (no limit) or positive.".toList
  | noInput path => "Input file not found: ".toList ++ path.toText
  | inputNotUtf8 path => "Input file is not valid UTF-8: ".toList ++ path.toText
  | noCases path => "Scenario file not found: ".toList ++ path.toText
  | faultyCases fault => fault.message
  | noScenarios => "No scenarios to check.".toList

def Failure.message : Failure → Text
  | usage => []
  | refused refusal => refusal.message
  | file fault => fault.message
  | broken fault => fault.message
  | unprintable fault => fault.message
  | unwritable => "str is not valid UTF-8: surrogates not allowed".toList

end PoolLogin.Command
