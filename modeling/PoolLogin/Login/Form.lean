import PoolLogin.Login.Parse

/-!
The forms of worker names, the other way round: a name is put together from its parts. Reading
undoes `Form.name` on the forms that are proper, and every name has one. The units of a name and its
two delimiters are whatever names are made of.
-/

namespace PoolLogin.Login

variable {α : Type}

/-- What stands after the payout id of a worker name. -/
inductive Tail (α : Type) where
  | nothing
  | suffix (text : List α)
  | lightning (secondary host : List α) (suffix : Option (List α))
  deriving DecidableEq, Repr

/-- The delimiter in front of a part, and the part, unless it is absent. -/
def behind (delimiter : α) : Option (List α) → List α
  | none => []
  | some part => delimiter :: part

namespace Tail

/-- A tail as it stands in a worker name. -/
def text (field domain : α) : Tail α → List α
  | .nothing => []
  | .suffix text => field :: text
  | .lightning secondary host last => field :: secondary ++ domain :: host ++ behind field last

/-- Whether every part of a tail ends where its delimiter first occurs. The last part may hold
anything, except that a domain delimiter in a suffix would make it a secondary id. -/
def Proper (field domain : α) : Tail α → Prop
  | .nothing => True
  | .suffix text => domain ∉ text
  | .lightning secondary host _ => domain ∉ secondary ∧ field ∉ host

end Tail

/-- What stands before the first delimiter of a worker name, and what stands after it. -/
structure Form (α : Type) where
  head : List α
  tail : Tail α
  deriving DecidableEq, Repr

namespace Form

variable (field domain : α)

def name (form : Form α) : List α := form.head ++ form.tail.text field domain

/-- Whether the head ends at the first delimiter, and the parts of the tail at theirs. -/
def Proper (form : Form α) : Prop := field ∉ form.head ∧ form.tail.Proper field domain

/-- The payout id of a form: its head, or the whole name if the head is empty. -/
def primary (form : Form α) : List α :=
  if form.head.isEmpty then form.name field domain else form.head

def login (form : Form α) : Parts (List α) :=
  let primary := form.primary field domain
  match form.tail with
  | .nothing => { primary }
  | .suffix text => { primary, suffix := some text }
  | .lightning secondary host suffix =>
    { primary, secondary := some secondary, domain := some host, suffix }

end Form

/-- The worker name that a login was read from. A payout id that holds a delimiter is the whole
name; otherwise the parts follow it, each behind its delimiter. -/
def assemble [DecidableEq α] (field domain : α) (login : Parts (List α)) : List α :=
  if field ∈ login.primary then login.primary
  else
    login.primary ++ behind field login.secondary ++ behind domain login.domain ++
      behind field login.suffix

end PoolLogin.Login
