import PoolLogin.Text.Grapheme
import PoolLogin.Text.Lines

/-!
Text as it is printed: some control characters are dropped, and tabs become blanks.
-/

namespace PoolLogin.Console

/-- The control characters that are never printed: bell, backspace, vertical tab, form feed and
carriage return. -/
def isDropped (c : Char) : Bool :=
  c == '\x07' || c == '\x08' || c == '\x0b' || c == '\x0c' || c == '\r'

/-- The text without the control characters that are never printed. -/
def dropControls (text : Text) : Text := text.filter fun c => !isDropped c

/-- The distance between two tab stops. -/
def tabSize : Nat := 8

/-- The blanks from a position to the next multiple of `tabSize`; none at such a multiple. -/
def blanksToStop (position : Nat) : Nat := (tabSize - position % tabSize) % tabSize

section

variable {α : Type} (char : α → Char) (blank : α)

/-- The parts between tabs, every tab replaced by a blank and the blanks up to the next tab stop;
`position` is where the first part starts. -/
def expandParts (position : Nat) : List (List α) → List α
  | [] => []
  | [part] => part
  | part :: parts =>
    let part := part ++ [blank]
    let position := position + Text.cells (part.map char)
    let blanks := blanksToStop position
    part ++ List.replicate blanks blank ++ expandParts (position + blanks) parts

/-- A line of items that hold characters, with its tabs replaced by one to eight blanks each. -/
def expandTabsIn (line : List α) : List α :=
  expandParts char blank 0 (Text.splitAt (fun a => char a == '\t') line)

end

/-- A line with its tabs replaced by one to eight blanks each. -/
def expandTabs (line : Text) : Text := expandTabsIn id ' ' line

/-- A text printed as it is, line by line, with a newline at its end. -/
def print (text : Text) : Text :=
  Text.joinWith ['\n'] ((Text.splitLines (dropControls text)).map expandTabs) ++ ['\n']

end PoolLogin.Console
