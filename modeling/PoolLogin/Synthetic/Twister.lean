import PoolLogin.Synthetic.Draw

/-!
The Mersenne twister with 624 words of 32 bits, and the source of draws that it makes. A number
below a bound is drawn from as many bits as the bound has; a draw that is too large is repeated.
-/

namespace PoolLogin.Synthetic

/-- The state of the twister: its words, and how many of them are used up. -/
structure Twister where
  words : Array UInt32
  used : Nat

namespace Twister

def size : Nat := 624

/-- The word at a place, counted around. -/
def word (words : Array UInt32) (n : Nat) : UInt32 := words[n % size]?.getD 0

def ofNumber (seed : UInt32) : Array UInt32 :=
  (List.range (size - 1)).foldl (fun words n =>
    let last := word words n
    words.push ((last ^^^ (last >>> 30)) * 1812433253 + UInt32.ofNat (n + 1))) #[seed]

/-- One word mixed with the word before it, or the last one for the word after the first. -/
def mixed (factor : UInt32) (words : Array UInt32) (n : Nat) : UInt32 :=
  let last := word words (n - 1)
  word words n ^^^ ((last ^^^ (last >>> 30)) * factor)

/-- Change a word. When the last word is reached, it is copied to the first place. -/
def setAndCarry (words : Array UInt32) (n : Nat) (value : UInt32) : Array UInt32 × Nat :=
  let words := words.setIfInBounds n value
  if n + 1 < size then (words, n + 1) else (words.setIfInBounds 0 value, 1)

def mixKey (key : Array UInt32) (words : Array UInt32) : Array UInt32 × Nat :=
  (List.range (max size key.size)).foldl (fun (words, n) step =>
    let place := step % key.size
    setAndCarry words n
      (mixed 1664525 words n + key[place]?.getD 0 + UInt32.ofNat place)) (words, 1)

/-- Mix the words once more, each with its place. -/
def mixPlaces (words : Array UInt32) (start : Nat) : Array UInt32 :=
  ((List.range (size - 1)).foldl (fun (words, n) _ =>
    setAndCarry words n (mixed 1566083941 words n - UInt32.ofNat n)) (words, start)).1

/-- The words of 32 bits of a number, the lowest first, and one word for zero. -/
def keyOf : (fuel : Nat) → Nat → List UInt32
  | 0, n => [UInt32.ofNat n]
  | fuel + 1, n =>
    if n < 4294967296 then [UInt32.ofNat n]
    else UInt32.ofNat n :: keyOf fuel (n / 4294967296)

/-- The twister of a seed. The sign of the seed does not count. -/
def ofSeed (seed : Int) : Twister :=
  let key := (keyOf seed.natAbs.log2 seed.natAbs).toArray
  let (words, start) := mixKey key (ofNumber 19650218)
  { words := (mixPlaces words start).setIfInBounds 0 0x80000000, used := size }

/-- The word that replaces the one at a place, given all words. -/
def twisted (words : Array UInt32) (n : Nat) : UInt32 :=
  let joined := (word words n &&& 0x80000000) ||| (word words (n + 1) &&& 0x7fffffff)
  word words (n + 397) ^^^ (joined >>> 1) ^^^ (if joined &&& 1 = 0 then 0 else 0x9908b0df)

def twist (words : Array UInt32) : Array UInt32 :=
  (List.range size).foldl (fun words n => words.setIfInBounds n (twisted words n)) words

def temper (y : UInt32) : UInt32 :=
  let y := y ^^^ (y >>> 11)
  let y := y ^^^ ((y <<< 7) &&& 0x9d2c5680)
  let y := y ^^^ ((y <<< 15) &&& 0xefc60000)
  y ^^^ (y >>> 18)

def next (t : Twister) : UInt32 × Twister :=
  if t.used < size then (temper (word t.words t.used), { t with used := t.used + 1 })
  else
    let words := twist t.words
    (temper (word words 0), { words, used := 1 })

/-- Draw a number below a bound from `bits` bits, giving up with zero after many draws that are too
large. -/
def below (bound : Nat) (bits : UInt32) : (fuel : Nat) → Twister → Nat × Twister
  | 0, t => (0, t)
  | fuel + 1, t =>
    let (word, t) := t.next
    let n := (word >>> (32 - bits)).toNat
    if n < bound then (n, t) else below bound bits fuel t

/-- How often a draw is repeated at most. -/
def patience : Nat := 10000

def source : Source Twister :=
  { letter := fun t =>
      let (n, t) := below 36 6 patience t
      (Fin.ofNat 36 n, t)
    shape := fun t =>
      let (n, t) := below 3 2 patience t
      (if n = 0 then .bare else if n = 1 then .suffixed else .full, t) }

end Twister

/-- How many names are drawn unless told otherwise. -/
def defaultCount : Int := 10000

/-- The seed unless told otherwise. -/
def defaultSeed : Int := 1234

/-- Made-up worker names from a seed. No name is drawn if the count is not positive. -/
def seededNames (count seed : Int) : List Text :=
  names Twister.source count.toNat (Twister.ofSeed seed)

end PoolLogin.Synthetic
