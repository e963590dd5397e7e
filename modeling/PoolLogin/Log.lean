import PoolLogin.Csv
import PoolLogin.FileTree.Basic
import PoolLogin.Json.Writer
import PoolLogin.Text.Utf8

/-!
Logs to which one line after another is appended: comma-separated records under a header, and one
JSON value a line.
-/

namespace PoolLogin.Log

/-- A value of a comma-separated record. -/
inductive Cell where
  | absent
  | text (s : Text)
  | int (n : Int)
  | bool (b : Bool)
  deriving DecidableEq, Repr

/-- A cell as text. An absent one is told from an empty one by a word of its own. -/
def Cell.toText : Cell → Text
  | absent => "NULL".toList
  | text s => s
  | int n => Numeral.decimal n
  | bool true => "True".toList
  | bool false => "False".toList

def Cell.ofOption : Option Text → Cell
  | none => absent
  | some s => text s

def recordText (row : List (Text × Cell)) : Text :=
  Csv.writeRecord (row.map fun entry => entry.2.toText)

def headerText (row : List (Text × Cell)) : Text :=
  Csv.writeRecord (row.map fun entry => entry.1)

def jsonLine (payload : Json) : Text := Json.write .ascii payload ++ ['\n']

/-- Append a record to the log at a path, under a header if nothing stands there yet. -/
def appendCsv (path : Path) (row : List (Text × Cell)) : FileTree.Act Unit := do
  FileTree.makeDirectories path.parent
  let header := if ((← get).node? path).isNone then headerText row else []
  FileTree.append path (Utf8.encode (header ++ recordText row))

/-- Append a JSON value to the log at a path. -/
def appendJson (path : Path) (payload : Json) : FileTree.Act Unit := do
  FileTree.makeDirectories path.parent
  FileTree.append path (Utf8.encode (jsonLine payload))

end PoolLogin.Log
