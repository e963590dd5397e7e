import PoolLogin.Decimal.Binary
import PoolLogin.Text.Wide

/-!
JSON values. Whole numbers are exact and of any size, other numbers are binary floating-point,
objects keep the order of their keys, and texts may hold surrogates.
-/

namespace PoolLogin

/-- A JSON value. -/
inductive Json where
  | null
  | bool (b : Bool)
  | int (n : Int)
  | float (x : Binary64)
  | string (s : WideText)
  | arr (items : List Json)
  | obj (members : List (WideText × Json))
  deriving Repr, Inhabited

namespace Json

def ofText (text : Text) : Json := .string (.ofText text)

/-- An optional value, the absent one as null. -/
def ofOption {α : Type} (f : α → Json) : Option α → Json
  | none => .null
  | some a => f a

def ofMembers (members : List (Text × Json)) : Json :=
  .obj (members.map fun (key, value) => (.ofText key, value))

/-- A row of optional texts as an object. -/
def ofRow (row : List (Text × Option Text)) : Json :=
  ofMembers (row.map fun (key, value) => (key, ofOption ofText value))

mutual

/-- Whether no text in a value holds a surrogate. -/
def isScalar : Json → Bool
  | .string s => s.text?.isSome
  | .arr items => areScalar items
  | .obj members => membersAreScalar members
  | _ => true

/-- Whether no text in the values holds a surrogate. -/
def areScalar : List Json → Bool
  | [] => true
  | item :: items => isScalar item && areScalar items

/-- Whether no text in the members of an object holds a surrogate. -/
def membersAreScalar : List (WideText × Json) → Bool
  | [] => true
  | (key, value) :: members => key.text?.isSome && isScalar value && membersAreScalar members

end

end Json

end PoolLogin
