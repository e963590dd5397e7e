import PoolLogin.Text.Basic

/-!
Splitting at the first occurrence of a delimiter. The delimiter may have any length, none
included, and may overlap itself; `splitOnce` always takes the leftmost occurrence. What the text
is made of does not matter.
-/

namespace PoolLogin.Text

variable {α : Type} [DecidableEq α]

/-- What follows `start` in a text that begins with it. -/
def after? : (start text : List α) → Option (List α)
  | [], rest => some rest
  | _ :: _, [] => none
  | s :: ss, c :: cs => if s = c then after? ss cs else none

/-- Split at the first occurrence of the delimiter. The second part is absent exactly when the
delimiter does not occur, and then the first part is the whole text. -/
def splitOnce (delimiter : List α) (text : List α) : List α × Option (List α) :=
  match after? delimiter text with
  | some rest => ([], some rest)
  | none => match text with
    | [] => ([], none)
    | c :: cs =>
      let (field, rest) := splitOnce delimiter cs
      (c :: field, rest)

end PoolLogin.Text
