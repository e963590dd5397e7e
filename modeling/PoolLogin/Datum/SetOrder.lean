import PoolLogin.Datum.Basic

/-!
The order in which a set of numbers shows: that of a hash table with open addressing. A number that
equals another has the same residue modulo a Mersenne prime, whatever its type, and the residue is
its hash. A set that holds anything but numbers shows in the order in which its items came.
-/

namespace PoolLogin.Datum

def hashBits : Nat := 61

/-- The modulus of hashes, a prime. -/
def hashModulus : Nat := Nat.pow 2 hashBits - 1

def infiniteHash : Nat := 314159

/-- A residue with a sign as a number of 64 bits. One below zero is taken by two below zero. -/
def signedHash (negative : Bool) (residue : Nat) : Nat :=
  if negative then
    let residue := if residue = 1 then 2 else residue
    (Nat.pow 2 64 - residue) % Nat.pow 2 64
  else residue

/-- The hash of a number. Two to the power of `hashBits` counts as one, so a negative power is
that of the rest. -/
def hash? : Datum → Option Nat
  | .bool b => some (if b then 1 else 0)
  | .int n => some (signedHash (n < 0) (n.natAbs % hashModulus))
  | .float (.infinite negative) => some (signedHash negative infiniteHash)
  | .float (.finite negative m e) =>
    some (signedHash negative (m * Nat.pow 2 (e.emod hashBits).toNat % hashModulus))
  | _ => none

/-- The size of the table for a number of items: a power of two that leaves enough places free. -/
def tableSize (count : Nat) : Nat :=
  if 5 * count < 21 then 8 else max 8 (Nat.pow 2 ((2 * count).log2 + 1))

/-- How many places next to each other are tried after the first. -/
def nearbyPlaces : Nat := 9

/-- The first free place of at most `count` from `place` on. -/
def freeFrom {α : Type} (table : Array (Option α)) (place : Nat) : (count : Nat) → Option Nat
  | 0 => none
  | count + 1 =>
    if (table[place]?.getD none).isNone then some place else freeFrom table (place + 1) count

/-- The free place where an item with a hash is put: near its first place, or else near the next
that `rest`, what is left of the hash, leads to. -/
def freePlace {α : Type} (table : Array (Option α)) : (fuel place rest : Nat) → Nat
  | 0, place, _ => place
  | fuel + 1, place, rest =>
    let count := if place + nearbyPlaces < table.size then nearbyPlaces + 1 else 1
    match freeFrom table place count with
    | some free => free
    | none =>
      let rest := rest / 32
      freePlace table fuel ((place * 5 + 1 + rest) % table.size) rest

/-- Items with their hashes in the order of their places in a table. -/
def inTable {α : Type} (items : List (Nat × α)) : List α :=
  let size := tableSize items.length
  let table := items.foldl (fun table (hash, item) =>
    table.setIfInBounds (freePlace table (size + 64) (hash % size) hash) (some item))
    (Array.replicate size none)
  table.toList.filterMap id

/-- Different items in the order in which a set of them shows; `datum` is what an item is. -/
def setOrder {α : Type} (datum : α → Datum) (items : List α) : List α :=
  match items.mapM fun item => (datum item).hash?.map (·, item) with
  | some items => inTable items
  | none => items

end PoolLogin.Datum
