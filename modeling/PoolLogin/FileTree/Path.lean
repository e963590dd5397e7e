import PoolLogin.Text.Lines
import PoolLogin.Text.Quoted

/-!
Paths of files. A path is normalised when it is read: empty components and `.` vanish, `..` stays.
-/

namespace PoolLogin

/-- A path: the slashes in front of an absolute one, and the names below them. -/
structure Path where
  root : Text
  names : List Text
  deriving DecidableEq, Repr

namespace Path

/-- Read a path. Two slashes in front of it stay two, and more count as one. A path starts where its
slashes say, so `//w/x`, `/w/x` and `w/x` are three different paths, whatever directory one starts
in. -/
def ofText (text : Text) : Path :=
  let slashes := (text.takeWhile (· == '/')).length
  { root := if slashes = 0 then [] else if slashes = 2 then ['/', '/'] else ['/']
    names := (Text.splitAt (· == '/') text).filter fun name => !(name.isEmpty || name == ['.']) }

/-- A path as text. The directory in which one starts is a dot. -/
def toText (path : Path) : Text :=
  if path.root.isEmpty && path.names.isEmpty then ['.']
  else path.root ++ Text.joinWith ['/'] path.names

/-- The directory that a path lies in. A root lies in itself. -/
def parent (path : Path) : Path := { path with names := path.names.dropLast }

/-- The name that leads back to the directory above. -/
def upward : Text := ['.', '.']

def child (path : Path) (name : Text) : Path := { path with names := path.names ++ [name] }

/-- The path one directory further up. Above the directory in which one starts, the way up has to
be written out; a root lies in itself. -/
def above (path : Path) : Path :=
  if path.root.isEmpty && path.names.all (· == upward) then path.child upward else path.parent

/-- The ending of a name from its last dot on, if something stands before and after that dot. -/
def nameSuffix (name : Text) : Text :=
  let ending := (name.reverse.takeWhile (· != '.')).reverse
  if name.contains '.' && !ending.isEmpty && ending.length + 1 < name.length then '.' :: ending
  else []

/-- The ending of the last name of a path. -/
def suffix (path : Path) : Text := nameSuffix (path.names.getLastD [])

/-- The directories above a path, the root first and the path itself not among them. -/
def ancestors (path : Path) : List Path :=
  (List.range path.names.length).map fun n => { path with names := path.names.take n }

end Path

end PoolLogin
