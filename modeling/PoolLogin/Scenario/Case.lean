import PoolLogin.Scenario.Basic

/-!
Cases as JSON. A case is an object that holds a worker name and the parts that are expected of it,
and a case file holds a list of them, or nothing.
-/

namespace PoolLogin

namespace Json

/-- The value of a key of an object, unless it is missing or null. -/
def given? (key : Text) (members : List (WideText × Json)) : Option Json :=
  match Entries.get? (.ofText key) members with
  | some .null => none
  | value => value

/-- A list of objects. -/
def ofObjects (objects : List (List (WideText × Json))) : Json := .arr (objects.map .obj)

/-- A value lists objects that have a property if it is null, which lists none, or an array of
them. -/
def Lists (p : List (WideText × Json) → Prop) (value : Json) : Prop :=
  value = .null ∨ ∃ objects, value = .ofObjects objects ∧ ∀ members ∈ objects, p members

/-- What a value is as a text: texts are what they are, and other values are what they look like. -/
def plain (value : Json) : WideText := (Datum.ofJson value).plain

end Json

namespace Scenario

/-- An object describes a scenario if it holds the worker name and every part of it, and nothing or
null for a part that is absent. It may hold anything else. The worker name may be any value. -/
structure Describes (members : List (WideText × Json)) (scenario : Scenario) : Prop where
  name : (Entries.get? (.ofText Login.nameKey) members).map Json.plain = some scenario.name
  part : ∀ field, (Json.given? field.key members).map Json.plain = scenario.expected.get field

/-- An object is complete if it holds a worker name and a payout id, neither of them null. -/
structure Complete (members : List (WideText × Json)) : Prop where
  name : (Json.given? Login.nameKey members).isSome
  primary : (Json.given? Field.primary.key members).isSome

/-- An object is accepted if it holds a worker name, which may be null, and a payout id that is
not. -/
structure Accepted (members : List (WideText × Json)) : Prop where
  name : (Entries.get? (.ofText Login.nameKey) members).isSome
  primary : (Json.given? Field.primary.key members).isSome

/-- An object spells a worker name and its parts if it holds them as texts, and nothing or null for
a part that is absent. -/
structure Spells (case : Text × Login) (members : List (WideText × Json)) : Prop where
  name : Entries.get? (.ofText Login.nameKey) members = some (.ofText case.1)
  present : ∀ field text, case.2.get field = some text →
    Entries.get? (.ofText field.key) members = some (.ofText text)
  absent : ∀ field, case.2.get field = none →
    Entries.get? (.ofText field.key) members = none ∨
      Entries.get? (.ofText field.key) members = some .null

end Scenario

end PoolLogin
