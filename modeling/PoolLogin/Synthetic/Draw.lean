import PoolLogin.Login.Parse

/-!
Made-up worker names. They are drawn from a source of letters and shapes, of which nothing else is
asked.
-/

namespace PoolLogin.Synthetic

def alphabet : Text := "abcdefghijklmnopqrstuvwxyz0123456789".toList

/-- The three forms of made-up names. -/
inductive Shape where
  /-- A payout id. -/
  | bare
  /-- A payout id and a suffix. -/
  | suffixed
  /-- A payout id, a secondary id, a domain and a suffix. -/
  | full
  deriving DecidableEq, Repr

/-- A source of draws, which depend on a state. -/
structure Source (σ : Type) where
  /-- Draw a place in the alphabet. -/
  letter : σ → Fin 36 × σ
  /-- Draw a shape. -/
  shape : σ → Shape × σ

variable {σ : Type}

/-- The letter at a place in the alphabet. -/
def letterAt (n : Fin 36) : Char := alphabet.getD n 'a'

/-- Draw a word of a length. -/
def token (source : Source σ) : (size : Nat) → σ → Text × σ
  | 0, s => ([], s)
  | size + 1, s =>
    let (n, s) := source.letter s
    let (word, s) := token source size s
    (letterAt n :: word, s)

def idStart : Text := "bc1".toList

def name (source : Source σ) (s : σ) : Text × σ :=
  let (shape, s) := source.shape s
  let (id, s) := token source 39 s
  match shape with
  | .bare => (idStart ++ id, s)
  | .suffixed =>
    let (group, s) := token source 6 s
    let (rig, s) := token source 4 s
    (idStart ++ id ++ '.' :: group ++ '.' :: rig, s)
  | .full =>
    let (secondary, s) := token source 8 s
    let (domain, s) := token source 10 s
    let (rig, s) := token source 6 s
    (idStart ++ id ++ '.' :: secondary ++ '@' :: domain ++ ".com.".toList ++ rig, s)

def names (source : Source σ) : (count : Nat) → σ → List Text
  | 0, _ => []
  | count + 1, s =>
    let (first, s) := name source s
    first :: names source count s

end PoolLogin.Synthetic
