import PoolLogin.Text.Basic

/-!
UTF-8. `encode` writes a text; `pieces` reads any bytes as a sequence of characters and of
ill-formed pieces, each of them a maximal subpart: the longest start of a character that the bytes
break off. Strict and lossy reading are both told from the pieces.
-/

namespace PoolLogin.Utf8

/-- The one to four bytes of a character. -/
def encodeChar (c : Char) : Bytes :=
  let n := c.toNat
  if n < 0x80 then [UInt8.ofNat n]
  else if n < 0x800 then [UInt8.ofNat (0xC0 + n / 64), UInt8.ofNat (0x80 + n % 64)]
  else if n < 0x10000 then
    [UInt8.ofNat (0xE0 + n / 4096), UInt8.ofNat (0x80 + n / 64 % 64),
      UInt8.ofNat (0x80 + n % 64)]
  else
    [UInt8.ofNat (0xF0 + n / 262144), UInt8.ofNat (0x80 + n / 4096 % 64),
      UInt8.ofNat (0x80 + n / 64 % 64), UInt8.ofNat (0x80 + n % 64)]

/-- The bytes of a text. -/
def encode (text : Text) : Bytes := text.flatMap encodeChar

/-- Why bytes are no character. -/
inductive Flaw where
  /-- No character starts with this byte. -/
  | invalidStart
  /-- The byte that follows does not continue the character. -/
  | invalidContinuation
  /-- The bytes end inside a character. -/
  | unexpectedEnd
  deriving DecidableEq, Repr

/-- A maximal part of the bytes: a character, or the start of one that is broken off. -/
inductive Piece where
  | char (c : Char)
  | illFormed (bytes : Bytes) (flaw : Flaw)
  deriving DecidableEq, Repr

/-- Where reading stands between two bytes: between characters, or inside one that is still owed
`owed` bytes, the next of them from `low` to `high`. -/
inductive State where
  | idle
  | owing (owed low high value : Nat) (seen : Bytes)
  deriving DecidableEq, Repr

def start (b : UInt8) : List Piece × State :=
  let n := b.toNat
  if n < 0x80 then ([.char (Char.ofNat n)], .idle)
  else if n < 0xC2 then ([.illFormed [b] .invalidStart], .idle)
  else if n < 0xE0 then ([], .owing 1 0x80 0xBF (n - 0xC0) [b])
  else if n < 0xF0 then
    ([], .owing 2 (if n = 0xE0 then 0xA0 else 0x80) (if n = 0xED then 0x9F else 0xBF)
      (n - 0xE0) [b])
  else if n < 0xF5 then
    ([], .owing 3 (if n = 0xF0 then 0x90 else 0x80) (if n = 0xF4 then 0x8F else 0xBF)
      (n - 0xF0) [b])
  else ([.illFormed [b] .invalidStart], .idle)

/-- Read one byte. A byte that does not continue the character before it ends that character as
ill-formed and starts the next. -/
def step : State → UInt8 → List Piece × State
  | .idle, b => start b
  | .owing owed low high value seen, b =>
    if low ≤ b.toNat ∧ b.toNat ≤ high then
      let value := value * 64 + (b.toNat - 0x80)
      if owed ≤ 1 then ([.char (Char.ofNat value)], .idle)
      else ([], .owing (owed - 1) 0x80 0xBF value (seen ++ [b]))
    else
      let (pieces, state) := start b
      (.illFormed seen .invalidContinuation :: pieces, state)

def finish : State → List Piece
  | .idle => []
  | .owing _ _ _ _ seen => [.illFormed seen .unexpectedEnd]

/-- The pieces of the bytes read from a given state on. -/
def piecesFrom (state : State) : Bytes → List Piece
  | [] => finish state
  | b :: rest =>
    let (pieces, state) := step state b
    pieces ++ piecesFrom state rest

/-- The characters and ill-formed parts of the bytes, in order. -/
def pieces (bytes : Bytes) : List Piece := piecesFrom .idle bytes

/-- The number of bytes of a piece. -/
def Piece.size : Piece → Nat
  | .char c => (encodeChar c).length
  | .illFormed bytes _ => bytes.length

/-- The first ill-formed part of some bytes, and where it begins. -/
structure Fault where
  position : Nat
  bytes : Bytes
  flaw : Flaw
  deriving DecidableEq, Repr

/-- The text of pieces that begin at `position`, if none of them is ill-formed. -/
def textOf (position : Nat) : List Piece → Except Fault Text
  | [] => .ok []
  | .char c :: rest => (textOf (position + (encodeChar c).length) rest).map (c :: ·)
  | .illFormed bytes flaw :: _ => .error { position, bytes, flaw }

/-- Strict reading: the first ill-formed part is a fault. -/
def decode (bytes : Bytes) : Except Fault Text := textOf 0 (pieces bytes)

/-- Lossy reading: ill-formed parts are left out. -/
def decodeLossy (bytes : Bytes) : Text :=
  (pieces bytes).filterMap fun
    | .char c => some c
    | .illFormed _ _ => none

end PoolLogin.Utf8
