import PoolLogin.Calendar
import PoolLogin.Entries
import PoolLogin.Json.Value

/-!
The values that a case file can hold. JSON has fewer kinds of them than YAML. A value is a tree: a
collection that lies in itself is cut off where it comes again.
-/

namespace PoolLogin

/-- The kinds of collections that can lie in themselves. -/
inductive Collection where
  | list
  | pair
  | map
  deriving DecidableEq, Repr

/-- A value of a case file. -/
inductive Datum where
  | null
  | bool (b : Bool)
  | int (n : Int)
  | float (x : Binary64)
  | string (s : WideText)
  | bytes (b : Bytes)
  | date (d : Date)
  | moment (m : Moment)
  | list (items : List Datum)
  | pair (first second : Datum)
  | map (entries : List (Datum × Datum))
  | set (items : List Datum)
  /-- A collection inside itself. -/
  | inner (kind : Collection)
  deriving Repr, Inhabited

namespace Datum

/-- A value as a whole number, if it counts as one among keys. -/
def wholeNumber? : Datum → Option Int
  | .bool b => some (if b then 1 else 0)
  | .int n => some n
  | .float x => x.toInt?
  | _ => none

/-- Whether two values are the same key. Truth values and floating-point numbers are the same as
the whole numbers that they equal. -/
def sameKey (a b : Datum) : Bool :=
  match wholeNumber? a, wholeNumber? b with
  | some m, some n => m == n
  | some _, none => false
  | none, some _ => false
  | none, none => match a, b with
    | .null, .null => true
    | .float .nan, .float .nan => false
    | .float x, .float y => x == y
    | .string s, .string t => s == t
    | .bytes s, .bytes t => s == t
    | .date d, .date e => d == e
    | .moment m, .moment n => Calendar.same m n
    | _, _ => false

/-- Keys of maps and sets are compared by `sameKey`. -/
instance : BEq Datum := ⟨sameKey⟩

mutual

/-- A JSON value as a value of a case file. -/
def ofJson : Json → Datum
  | .null => .null
  | .bool b => .bool b
  | .int n => .int n
  | .float x => .float x
  | .string s => .string s
  | .arr items => .list (ofItems items)
  | .obj members => .map (ofMembers members)

def ofItems : List Json → List Datum
  | [] => []
  | item :: items => ofJson item :: ofItems items

def ofMembers : List (WideText × Json) → List (Datum × Datum)
  | [] => []
  | (key, value) :: members => (.string key, ofJson value) :: ofMembers members

end

/-- The entries of a value that is a map. -/
def entries? : Datum → Option (Entries Datum Datum)
  | .map entries => some entries
  | _ => none

end Datum

end PoolLogin
