import PoolLogin.Command.Run

/-!
The command line. The files that a command names are read into a file tree, the command is run on
it, and what changed is written back. Everything else is decided by the run.
-/

namespace PoolLogin.Main

def namedPaths : Command → List Path
  | .parse _ _ _ => []
  | .batch input output _ _ => input :: output.toList
  | .check cases _ output => cases.toList ++ output.toList

/-- Add what stands at a path to a tree. -/
def look (tree : FileTree) (path : Path) : IO FileTree := do
  let place := (← IO.currentDir) / String.ofList path.toText
  if (tree.node? path).isSome then return tree
  else if ← place.isDir then return tree.put path .directory
  else if ← place.pathExists then
    return tree.put path (.file (← IO.FS.readBinFile place).toList)
  else return tree

/-- The part of the file system that a command can see. -/
def lookAll (command : Command) : IO FileTree :=
  ((namedPaths command).flatMap fun path => path.ancestors ++ [path]).foldlM look {}

/-- Make the files of a tree what they became. -/
def writeBack (before after : FileTree) : IO Unit := do
  let here ← IO.currentDir
  for path in before.removed after do
    IO.FS.removeFile (here / String.ofList path.toText)
  for (path, content) in before.written after do
    IO.FS.createDirAll (here / String.ofList path.parent.toText)
    IO.FS.writeBinFile (here / String.ofList path.toText) ⟨content.toArray⟩

/-- The words for a failure on the error stream. -/
def failureText : Command.Failure → Text
  | .usage => "Usage: parse NAMES | batch INPUT | check".toList
  | .refused refusal => "Invalid value: ".toList ++ refusal.message
  | failure => failure.message

/-- The number with which a failed run exits. -/
def failureCode : Command.Failure → UInt32
  | .usage => 2
  | .refused _ => 2
  | _ => 1

def runLine (arguments : List Text) : IO UInt32 := do
  let before ← match Command.ofArguments? arguments with
    | some command => lookAll command
    | none => pure {}
  let outcome := Command.runArguments before arguments
  writeBack before outcome.tree
  IO.print (String.ofList outcome.printed)
  match outcome.exit with
  | .ok code => return UInt32.ofNat code
  | .error failure =>
    IO.eprintln (String.ofList (failureText failure))
    return failureCode failure

end PoolLogin.Main

def main (arguments : List String) : IO UInt32 :=
  PoolLogin.Main.runLine (arguments.map String.toList)
