import PoolLogin.Login.Parse

/-!
A login as text for diagnostics, and as a row for logs and tables.
-/

namespace PoolLogin.Login

/-- The word that stands for an absent part where there is no other way to say so. -/
def absent : Text := "NULL".toList

def rule : Text := List.replicate 40 '-'

section

variable {α : Type} (unit : Char → α) (name : List α) (login : Parts (List α))

/-- The lines of a dump: a heading with the worker name, and one line for every part between two
rules. What stands around the name and its parts is made of their units. -/
def dumpLines : List (List α) :=
  ["Parsing results for: \"".toList.map unit ++ name ++ [unit '"'], rule.map unit] ++
    Field.all.map (fun field => (field.label ++ [':', ' ']).map unit ++
      (login.get field).getD (absent.map unit)) ++
    [rule.map unit]

def dumpIn : List α := Text.joinWith [unit '\n'] (dumpLines unit name login)

end

/-- A login as text for people to read. -/
def dump (name : Text) (login : Login) : Text := dumpIn id name login

/-- The dump of a worker name that may hold surrogates. -/
def dumpWide (name : WideText) (login : Parts WideText) : WideText := dumpIn .char name login

/-- The key of the worker name in rows and case files. -/
def nameKey : Text := "workername".toList

/-- A worker name and its parts as a row: keys with optional texts, in reporting order. -/
def row (name : Text) (login : Login) : List (Text × Option Text) :=
  (nameKey, some name) :: Field.all.map fun field => (field.key, login.get field)

end PoolLogin.Login
