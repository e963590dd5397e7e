import PoolLogin.FileTree.Basic
import PoolLogin.Json.Reader
import PoolLogin.Datum.Document
import PoolLogin.Scenario.Basic
import PoolLogin.Yaml.Value

/-!
Scenarios from case files. The ending of its name decides whether a file is read as YAML or as
JSON; either way it holds a list of maps, or nothing.
-/

namespace PoolLogin.Scenario

/-- Why a file gives no scenarios. -/
inductive LoadFault where
  | unreadable (fault : FileTree.Fault)
  | notUtf8 (fault : Utf8.Fault)
  | notJson (text : Text) (fault : Json.Fault)
  | notYaml (path : Path) (fault : Yaml.Fault)
  | notList (path : Path)
  | notMap (path : Path) (entry : Datum)
  | flawed (flaw : Flaw)
  deriving Repr

/-- The endings of the names of YAML files. -/
def yamlSuffixes : List Text := [".yml".toList, ".yaml".toList]

def isYaml (path : Path) : Bool := yamlSuffixes.contains (Text.lowercase path.suffix)

section

variable {ν : Type} (path : Path) (view : ν → Datum)

/-- The map that an item of a case file must be, with its entries. -/
def entry : Item ν → Except LoadFault (ν × Entries Datum ν)
  | .map whole entries => .ok (whole, entries)
  | .other whole =>
    let datum := view whole
    .error ((datum.unwritable?.map (.flawed ∘ .unwritable)).getD (.notMap path datum))

/-- The scenarios of what a case file holds. -/
def ofDocument : Document ν → Except LoadFault (List Scenario)
  | .nothing => .ok []
  | .list items => do
    let entries ← items.mapM (entry path view)
    (entries.mapM fun (whole, entries) => ofEntries view whole entries).mapError .flawed
  | .other => .error (.notList path)

end

def ofText (path : Path) (text : Text) : Except LoadFault (List Scenario) := do
  if isYaml path then
    let values ← (Yaml.read text).mapError (.notYaml path)
    ofDocument path values.cells.view values.document
  else
    let value ← (Json.read text).mapError (.notJson text)
    ofDocument path id (Datum.ofJson value).document

/-- The scenarios of the content of a file. -/
def ofContent (path : Path) (content : Bytes) : Except LoadFault (List Scenario) := do
  let text ← (Utf8.decode content).mapError .notUtf8
  ofText path (Text.unifyNewlines text)

def load (tree : FileTree) (path : Path) : Except LoadFault (List Scenario) := do
  let content ← (tree.readFile path).mapError .unreadable
  ofContent path content

def utf8FlawMessage : Utf8.Flaw → Text
  | .invalidStart => "invalid start byte".toList
  | .invalidContinuation => "invalid continuation byte".toList
  | .unexpectedEnd => "unexpected end of data".toList

/-- The words for a fault of UTF-8: its bytes and where they are. -/
def utf8Message (fault : Utf8.Fault) : Text :=
  let first := Numeral.natural fault.position
  let place := match fault.bytes with
    | [b] => "byte 0x".toList ++ Numeral.hexadecimal 2 b.toNat ++ " in position ".toList ++ first
    | bytes =>
      "bytes in position ".toList ++ first ++ ['-'] ++
        Numeral.natural (fault.position + bytes.length - 1)
  "'utf-8' codec can't decode ".toList ++ place ++ [':', ' '] ++ utf8FlawMessage fault.flaw

/-- Whether a fault makes the file one to be refused. Other faults break off what is being done, as
they do not show in what way the file is wrong. -/
def LoadFault.isRefusal : LoadFault → Bool
  | unreadable _ => false
  | notYaml _ fault => !fault.isBreakdown
  | notJson _ (.tooDeep _) => false
  | flawed (.unwritable .tooDeep) => false
  | _ => true

def LoadFault.message : LoadFault → Text
  | unreadable fault => fault.message
  | notUtf8 fault => utf8Message fault
  | notJson text fault => fault.message text
  | notYaml path .malformed => "Scenario file is not valid YAML: ".toList ++ path.toText
  | notYaml _ fault => fault.message
  | notList path => "Scenario file must hold a list of cases: ".toList ++ path.toText
  | notMap path entry =>
    "Scenario must be a mapping, got ".toList ++ entry.display ++ [':', ' '] ++ path.toText
  | flawed flaw => flaw.message

end PoolLogin.Scenario
