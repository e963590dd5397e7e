import PoolLogin.Entries
import PoolLogin.FileTree.Path
import PoolLogin.Text.Utf8

/-!
A tree of files and directories as a value, with the few operations that the tool needs and the
faults that they can end in. An action that fails keeps the tree that it has reached: directories
made on the way to a file stay, even if the file cannot be written.
-/

namespace PoolLogin

/-- What stands at a path. -/
inductive FileTree.Node where
  | file (content : Bytes)
  | directory
  deriving DecidableEq, Repr

/-- The files and directories below the roots, which are always there. -/
structure FileTree where
  entries : Entries Path FileTree.Node := []
  deriving Repr

namespace FileTree

/-- Why a path cannot be followed to its end. -/
inductive Obstacle where
  /-- A directory on the way is missing. -/
  | missing
  /-- A name on the way belongs to a file. -/
  | notDirectory
  | nameTooLong
  deriving DecidableEq, Repr

/-- Why an operation on a path fails. -/
inductive Fault where
  | missing (path : Path)
  | alreadyThere (path : Path)
  | notDirectory (path : Path)
  | isDirectory (path : Path)
  | nameTooLong (path : Path)
  /-- No name holds the character that ends the texts of the system. -/
  | nulCharacter
  deriving DecidableEq, Repr

/-- The fault of an obstacle on a path. -/
def Obstacle.fault (path : Path) : Obstacle → Fault
  | missing => .missing path
  | notDirectory => .notDirectory path
  | nameTooLong => .nameTooLong path

/-! ### Following paths -/

/-- The node at a place. The directory in which one starts and those above it are always there. -/
def at? (tree : FileTree) (place : Path) : Option Node :=
  if place.names.all (· == Path.upward) then some .directory else tree.entries.get? place

/-- The most bytes of a name. -/
def maxNameSize : Nat := 255

/-- The most bytes of a path. -/
def maxPathSize : Nat := 4095

/-- The place to which names lead from another place. Only a directory has names in it, or a way
up. -/
def walk (tree : FileTree) (place : Path) : List Text → Except Obstacle Path
  | [] => .ok place
  | name :: names => match tree.at? place with
    | none => .error .missing
    | some (.file _) => .error .notDirectory
    | some .directory =>
      if name = Path.upward then walk tree place.above names
      else if maxNameSize < (Utf8.encode name).length then .error .nameTooLong
      else walk tree (place.child name) names

/-- The place to which a path leads, whether something stands there or not. Places below different
roots are different, so no file is reached over `//w` and over `/w`, or over a relative path and an
absolute one. -/
def place (tree : FileTree) (path : Path) : Except Fault Path :=
  let text := path.toText
  if text.contains '\x00' then .error .nulCharacter
  else if maxPathSize < (Utf8.encode text).length then .error (.nameTooLong path)
  else (tree.walk { path with names := [] } path.names).mapError (Obstacle.fault path)

def node? (tree : FileTree) (path : Path) : Option Node :=
  match tree.place path with
  | .ok place => tree.at? place
  | .error _ => none

def isDirectory (tree : FileTree) (path : Path) : Bool := tree.node? path == some .directory

/-- The content of the file at a path, if there is one. -/
def content? (tree : FileTree) (path : Path) : Option Bytes :=
  match tree.node? path with
  | some (.file content) => some content
  | _ => none

/-- The content of the file at a path, if there is one. Only a name that is too long is a fault. -/
def findFile (tree : FileTree) (path : Path) : Except Fault (Option Bytes) :=
  match tree.place path with
  | .error (.nameTooLong path) => .error (.nameTooLong path)
  | _ => .ok (tree.content? path)

def readFile (tree : FileTree) (path : Path) : Except Fault Bytes := do
  match tree.at? (← tree.place path) with
  | some (.file content) => .ok content
  | some .directory => .error (.isDirectory path)
  | none => .error (.missing path)

/-- Put a node at a path that leads somewhere. -/
def put (tree : FileTree) (path : Path) (node : Node) : FileTree :=
  match tree.place path with
  | .ok place => { tree with entries := tree.entries.put place node }
  | .error _ => tree

def drop (tree : FileTree) (path : Path) : FileTree :=
  match tree.place path with
  | .ok place => { tree with entries := tree.entries.erase place }
  | .error _ => tree

/-! ### Actions -/

abbrev Act := ExceptT Fault (StateM FileTree)

/-- The place to which a path leads in the tree of an action. -/
def placeOf (path : Path) : Act Path := do ofExcept ((← get).place path)

def makeDirectory (path : Path) : Act Unit := do
  let place ← placeOf path
  match (← get).at? place with
  | some _ => throw (.alreadyThere path)
  | none => modify (·.put path .directory)

/-- Make a directory, which may be there already. -/
def ensureDirectory (path : Path) : Act Unit :=
  tryCatch (makeDirectory path) fun fault => do
    if (← get).isDirectory path then return () else throw fault

/-- Make the directory with the given names, the last one first, and the missing ones above it. -/
def makeDirectoriesFrom (root : Text) : (upwards : List Text) → Act Unit
  | [] => ensureDirectory { root, names := [] }
  | name :: above =>
    let path : Path := { root, names := (name :: above).reverse }
    tryCatch (ensureDirectory path) fun fault => do
      match fault with
      | .missing _ => do
        makeDirectoriesFrom root above
        ensureDirectory path
      | fault => throw fault

/-- Make a directory and the missing ones above it. It may be there already. -/
def makeDirectories (path : Path) : Act Unit := makeDirectoriesFrom path.root path.names.reverse

/-- Give the file at a path a content that depends on the one before, which is empty for a new
file. The directory that it lies in must be there. -/
def update (path : Path) (f : Bytes → Bytes) : Act Unit := do
  let place ← placeOf path
  match (← get).at? place with
  | some (.file content) => modify (·.put path (.file (f content)))
  | some .directory => throw (.isDirectory path)
  | none => modify (·.put path (.file (f [])))

def append (path : Path) (bytes : Bytes) : Act Unit := update path (· ++ bytes)

/-- Write a file anew. -/
def write (path : Path) (bytes : Bytes) : Act Unit := update path fun _ => bytes

/-- Remove a file, which may be missing. -/
def remove (path : Path) : Act Unit := do
  match (← get).readFile path with
  | .ok _ => modify (·.drop path)
  | .error (.missing _) => return ()
  | .error fault => throw fault

/-! ### What changed -/

/-- The files of a tree with their contents. -/
def files (tree : FileTree) : List (Path × Bytes) :=
  tree.entries.filterMap fun
    | (path, .file content) => some (path, content)
    | (_, .directory) => none

/-- The files that a change made or altered, with their new contents. -/
def written (before after : FileTree) : List (Path × Bytes) :=
  after.files.filter fun (path, content) => before.content? path != some content

/-- The files that a change took away. -/
def removed (before after : FileTree) : List Path :=
  (before.files.map (·.1)).filter fun path => (after.content? path).isNone

/-! ### Messages -/

/-- A fault as the system reports it: its number, the words for it, and the path. The system is not
asked about a path that it could not read to its end. -/
def Fault.report? : Fault → Option (Nat × String × Path)
  | missing path => some (2, "No such file or directory", path)
  | alreadyThere path => some (17, "File exists", path)
  | notDirectory path => some (20, "Not a directory", path)
  | isDirectory path => some (21, "Is a directory", path)
  | nameTooLong path => some (36, "File name too long", path)
  | nulCharacter => none

def Fault.message (fault : Fault) : Text :=
  match fault.report? with
  | some (number, words, path) =>
    "[Errno ".toList ++ Numeral.natural number ++ "] ".toList ++ words.toList ++
      ": ".toList ++ Text.quoted path.toText
  | none => "embedded null byte".toList

end FileTree

end PoolLogin
