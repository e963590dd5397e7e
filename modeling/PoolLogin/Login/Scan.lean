import PoolLogin.Login.Parse

/-!
A worker name as a pool server sees it: bytes that come one after another and are never looked at
twice. In UTF-8 no byte of a longer character is a delimiter, so the parts are the encoded parts of
the text.
-/

namespace PoolLogin.Login

/-- What has been read of a worker name. The bytes of the part that goes on come last. -/
inductive Scan where
  | primary (part : Bytes)
  /-- A part that is a secondary id if a domain follows, and else a suffix. -/
  | tail (primary part : Bytes)
  | domain (primary secondary part : Bytes)
  | suffix (primary secondary domain part : Bytes)
  deriving DecidableEq, Repr

namespace Scan

/-- The byte of the delimiter in front of the secondary id and of the suffix. -/
def fieldByte : UInt8 := 0x2e

/-- The byte of the delimiter in front of the domain. -/
def domainByte : UInt8 := 0x40

def step : Scan → UInt8 → Scan
  | primary part, b => if b = fieldByte then tail part [] else primary (part ++ [b])
  | tail p part, b => if b = domainByte then domain p part [] else tail p (part ++ [b])
  | domain p s part, b => if b = fieldByte then suffix p s part [] else domain p s (part ++ [b])
  | suffix p s d part, b => suffix p s d (part ++ [b])

def parts : Scan → Parts Bytes
  | primary part => { primary := part }
  | tail p part => { primary := p, suffix := some part }
  | domain p s part => { primary := p, secondary := some s, domain := some part }
  | suffix p s d part =>
    { primary := p, secondary := some s, domain := some d, suffix := some part }

end Scan

/-- The parts of the bytes of a worker name, read in one pass. All bytes stand in for an empty
payout id. -/
def scan (name : Bytes) : Parts Bytes :=
  let parts := (name.foldl Scan.step (.primary [])).parts
  if parts.primary.isEmpty then { parts with primary := name } else parts

end PoolLogin.Login
