import PoolLogin.Text.Basic

/-!
Bytes in base 64. Reading is lenient: characters outside the alphabet are passed over, and what
follows the padding is not looked at.
-/

namespace PoolLogin.Base64

/-- The six bits of a character of the alphabet. -/
def sextet? (c : Char) : Option Nat :=
  if 'A' ≤ c ∧ c ≤ 'Z' then some (c.toNat - 65)
  else if 'a' ≤ c ∧ c ≤ 'z' then some (c.toNat - 71)
  else if '0' ≤ c ∧ c ≤ '9' then some (c.toNat + 4)
  else if c = '+' then some 62
  else if c = '/' then some 63
  else none

/-- Read from a place on where `count` characters of a group of four have been read; `left` holds
their bits that make no byte yet, and `pads` counts the padding since the last of them. A group
that is broken off is no byte. -/
def decodeFrom (count left pads : Nat) : Text → Option Bytes
  | [] => if count = 0 then some [] else none
  | c :: rest =>
    if c = '=' then
      if 2 ≤ count ∧ 4 ≤ count + pads + 1 then some []
      else decodeFrom count left (if 2 ≤ count then pads + 1 else pads) rest
    else match sextet? c with
      | none => decodeFrom count left pads rest
      | some n => match count with
        | 0 => decodeFrom 1 n 0 rest
        | 1 => (decodeFrom 2 (n % 16) 0 rest).map (UInt8.ofNat (left * 4 + n / 16) :: ·)
        | 2 => (decodeFrom 3 (n % 4) 0 rest).map (UInt8.ofNat (left * 16 + n / 4) :: ·)
        | _ => (decodeFrom 0 0 0 rest).map (UInt8.ofNat (left * 64 + n) :: ·)

/-- The bytes of a text, unless it ends inside a group without padding. -/
def decode (text : Text) : Option Bytes := decodeFrom 0 0 0 text

end PoolLogin.Base64
