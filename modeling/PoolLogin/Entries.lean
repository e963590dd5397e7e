/-!
Finite maps as lists of entries in the order in which their keys first came.
-/

namespace PoolLogin

/-- The entries of a map, each key at most once. -/
abbrev Entries (κ α : Type) := List (κ × α)

namespace Entries

variable {κ α : Type} [BEq κ]

def get? (key : κ) : Entries κ α → Option α
  | [] => none
  | (k, a) :: rest => if k == key then some a else get? key rest

/-- Give a key a value. A key that is already there keeps its place and its spelling. -/
def put (key : κ) (value : α) : Entries κ α → Entries κ α
  | [] => [(key, value)]
  | (k, a) :: rest => if k == key then (k, value) :: rest else (k, a) :: put key value rest

def erase (key : κ) (entries : Entries κ α) : Entries κ α :=
  entries.filter fun entry => !(entry.1 == key)

/-- The map that a list of pairs describes, a later pair overriding an earlier one. -/
def ofList (pairs : List (κ × α)) : Entries κ α :=
  pairs.foldl (fun entries pair => entries.put pair.1 pair.2) []

end Entries

end PoolLogin
