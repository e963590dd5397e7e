import PoolLogin.Text.Wide

/-!
A pool login and its four parts. `Parts` is generic in what a part is made of, so that the same
record holds characters, code points or bytes.
-/

namespace PoolLogin

/-- The parts of a worker name: the payout id, and what may follow it. An absent part is not an
empty one. -/
structure Parts (α : Type) where
  primary : α
  secondary : Option α := none
  domain : Option α := none
  suffix : Option α := none
  deriving DecidableEq, Repr

/-- The parts of a worker name as text. -/
abbrev Login := Parts Text

/-- The names of the four parts. -/
inductive Field where
  | primary
  | secondary
  | domain
  | suffix
  deriving DecidableEq, Repr

namespace Field

/-- The parts in the order in which they are reported. -/
def all : List Field := [primary, secondary, domain, suffix]

/-- The key of a part in rows and case files. -/
def key : Field → Text
  | primary => "primary_id".toList
  | secondary => "secondary_id".toList
  | domain => "domain".toList
  | suffix => "suffix".toList

/-- The words for a part in a text dump. -/
def label : Field → Text
  | primary => "BTC Address".toList
  | secondary => "Lightning ID".toList
  | domain => "Domain".toList
  | suffix => "Worker Name".toList

end Field

namespace Parts

variable {α : Type}

/-- Change what every present part is made of. -/
def map {β : Type} (f : α → β) (p : Parts α) : Parts β :=
  { primary := f p.primary
    secondary := p.secondary.map f
    domain := p.domain.map f
    suffix := p.suffix.map f }

/-- A part by its name. The payout id is always present. -/
def get (p : Parts α) : Field → Option α
  | .primary => some p.primary
  | .secondary => p.secondary
  | .domain => p.domain
  | .suffix => p.suffix

/-- The parts with one of them replaced. A payout id cannot be taken away. -/
def set (p : Parts α) (value : Option α) : Field → Parts α
  | .primary => { p with primary := value.getD p.primary }
  | .secondary => { p with secondary := value }
  | .domain => { p with domain := value }
  | .suffix => { p with suffix := value }

/-- Optional values agree if both are absent, or both present and the same. -/
def agree [BEq α] : Option α → Option α → Bool
  | none, none => true
  | some a, some b => a == b
  | _, _ => false

/-- The parts in which two logins differ, in reporting order. -/
def mismatches [BEq α] (found expected : Parts α) : List Field :=
  Field.all.filter fun field => !agree (found.get field) (expected.get field)

end Parts

end PoolLogin
