import PoolLogin.Login.Basic
import PoolLogin.Text.Split

/-!
Reading a worker name. The forms are `id`, `id.suffix` and `id.secondary@domain[.suffix]`; each
delimiter is taken where it first occurs, and later ones stay inside the part that follows. The
units of a name are characters, or code points if it may hold surrogates; nothing but the two
delimiters is looked for among them.
-/

namespace PoolLogin

namespace Login

/-- The delimiter in front of the secondary id and of the suffix. -/
def fieldDelimiter : Char := '.'

def domainDelimiter : Char := '@'

end Login

namespace Parts

variable {α : Type} [DecidableEq α]

/-- What stands after the payout id and its delimiter: a secondary id and a domain if a domain
delimiter occurs, else a suffix. -/
def readTail (field domain : α) (head tail : List α) : Parts (List α) :=
  match Text.splitOnce [domain] tail with
  | (_, none) => { primary := head, suffix := some tail }
  | (secondary, some rest) =>
    let (domain, suffix) := Text.splitOnce [field] rest
    { primary := head, secondary := some secondary, domain := some domain, suffix }

/-- The parts before an empty payout id is replaced. -/
def split (field domain : α) (name : List α) : Parts (List α) :=
  match Text.splitOnce [field] name with
  | (head, none) => { primary := head }
  | (head, some tail) => readTail field domain head tail

/-- The parts of a worker name with the given delimiters. A name that starts with the first of them
has no payout id of its own, and the whole name stands in for it. -/
def read (field domain : α) (name : List α) : Parts (List α) :=
  let parts := split field domain name
  if parts.primary.isEmpty then { parts with primary := name } else parts

end Parts

namespace Login

def parse (name : Text) : Login := Parts.read fieldDelimiter domainDelimiter name

/-- The parts of a worker name that may hold surrogates. -/
def parseWide (name : WideText) : Parts WideText :=
  Parts.read (.char fieldDelimiter) (.char domainDelimiter) name

end Login

end PoolLogin
