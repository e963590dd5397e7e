import PoolLogin.Text.Split
import PoolLogin.Yaml.Fault

/-!
The classes of characters that YAML 1.1 tells apart.
-/

namespace PoolLogin.Yaml

/-- Whether a character may stand in a YAML text. -/
def isAllowed (c : Char) : Bool :=
  let n := c.toNat
  n == 9 || n == 10 || n == 13 || (0x20 ≤ n && n ≤ 0x7E) || n == 0x85 ||
    (0xA0 ≤ n && n ≤ 0xD7FF) || (0xE000 ≤ n && n ≤ 0xFFFD) || 0x10000 ≤ n

def lineSeparator : Char := '\u2028'

def paragraphSeparator : Char := '\u2029'

/-- The characters that end a line. -/
def isBreak (c : Char) : Bool :=
  c == '\n' || c == '\r' || c == '\u0085' || c == lineSeparator || c == paragraphSeparator

/-- What a line break means: a separator stands for itself, any other break for a newline. -/
def breakText (c : Char) : Char :=
  if c = lineSeparator ∨ c = paragraphSeparator then c else '\n'

/-- Blanks and line breaks. -/
def isGap (c : Char) : Bool := c == ' ' || c == '\t' || isBreak c

/-- Whether a text ends, or goes on with a blank or a line break. -/
def atGap : Text → Bool
  | [] => true
  | c :: _ => isGap c

/-- Whether a text ends, or goes on with a space or a line break; a tab does not count. -/
def atSpace : Text → Bool
  | [] => true
  | c :: _ => c == ' ' || isBreak c

/-- Whether the mark of a document's start or end stands at the start of a line. -/
def atDocumentMark (mark : Char) : Text → Bool
  | a :: b :: c :: rest => a == mark && b == mark && c == mark && atGap rest
  | _ => false

/-- Whether either mark of a document stands at the start of a line. -/
def atAnyDocumentMark (text : Text) : Bool := atDocumentMark '-' text || atDocumentMark '.' text

/-- The characters of anchors and of the names of directives. -/
def isNameChar (c : Char) : Bool :=
  ('0' ≤ c && c ≤ '9') || ('A' ≤ c && c ≤ 'Z') || ('a' ≤ c && c ≤ 'z') || c == '-' || c == '_'

/-- The value of a digit in base sixteen. -/
def hexDigit? (c : Char) : Option Nat :=
  let n := c.toNat
  if 48 ≤ n ∧ n ≤ 57 then some (n - 48)
  else if 97 ≤ n ∧ n ≤ 102 then some (n - 87)
  else if 65 ≤ n ∧ n ≤ 70 then some (n - 55)
  else none

/-- The number that exactly `count` digits in base sixteen give, if a text starts with them. -/
def hexNumber? (count : Nat) (text : Text) : Option Nat :=
  let digits := (text.take count).filterMap hexDigit?
  if digits.length = count then some (digits.foldl (fun n d => n * 16 + d) 0) else none

/-- The text after a comment, if one stands at its start. -/
def dropComment (text : Text) : Text :=
  match text with
  | '#' :: _ => text.dropWhile fun c => !isBreak c
  | _ => text

/-- The text after the rest of a line that holds nothing but spaces and a comment. -/
def dropLineRest (text : Text) : Except Fault Text :=
  match dropComment (text.dropWhile (· == ' ')) with
  | [] => .ok []
  | '\r' :: '\n' :: rest => .ok rest
  | c :: rest => if isBreak c then .ok rest else .error .malformed

end PoolLogin.Yaml
