import PoolLogin.Yaml.Character

/-!
Block scalars: indented lines after `|`, where line breaks are kept, or `>`, where they are folded.
-/

namespace PoolLogin.Yaml.Block

/-- What becomes of the line breaks at the end of a block scalar. -/
inductive Chomping where
  | clip
  | strip
  | keep
  deriving DecidableEq, Repr

def chomping? (c : Char) : Option Chomping :=
  if c = '+' then some .keep else if c = '-' then some .strip else none

/-- A digit as the indentation that it asks for. -/
def increment? (c : Char) : Option Nat :=
  if '0' ≤ c ∧ c ≤ '9' then some (c.toNat - 48) else none

/-- The header of a block scalar after its indicator: a sign and a digit in either order. -/
def header (text : Text) : Except Fault (Chomping × Option Nat × Text) :=
  let (chomping, increment, rest) := match text with
    | [] => (none, none, [])
    | c :: rest =>
      match chomping? c, increment? c with
      | some chomping, _ => match rest.head?.bind increment? with
        | some n => (some chomping, some n, rest.tail)
        | none => (some chomping, none, rest)
      | none, some n => match rest.head?.bind chomping? with
        | some chomping => (some chomping, some n, rest.tail)
        | none => (none, some n, rest)
      | none, none => (none, none, text)
  if increment = some 0 ∨ !atSpace rest then .error .malformed
  else .ok (chomping.getD .clip, increment, rest)

/-- The empty lines in front of the first line: the breaks, the widest indentation, and how many
characters they take. `column` counts the spaces of the current line. -/
def leading (column widest : Nat) : Text → Text × Nat × Nat × Nat
  | [] => ([], widest, column, 0)
  | c :: rest =>
    if c = ' ' then
      let (breaks, widest, column, size) := leading (column + 1) (max widest (column + 1)) rest
      (breaks, widest, column, size + 1)
    else if isBreak c then
      let (breaks, widest, column, size) := leading 0 widest rest
      (breakText c :: breaks, widest, column, size + 1)
    else ([], widest, column, 0)

/-- The empty lines in front of a line: the breaks, the column that is reached, at most `indent`,
and how many characters they take. -/
def breaks (indent column : Nat) : Text → Text × Nat × Nat
  | [] => ([], column, 0)
  | c :: rest =>
    if c = ' ' ∧ column < indent then
      let (text, column, size) := breaks indent (column + 1) rest
      (text, column, size + 1)
    else if isBreak c then
      let (text, column, size) := breaks indent 0 rest
      (breakText c :: text, column, size + 1)
    else ([], column, 0)

def tail (chomping : Chomping) (lineBreak breaks : Text) : Text :=
  match chomping with
  | .clip => lineBreak
  | .strip => []
  | .keep => lineBreak ++ breaks

/-- Whether a text starts with a character other than a blank. -/
def startsInk : Text → Bool
  | [] => true
  | c :: _ => !(c == ' ' || c == '\t')

/-- What stands between two lines. When lines are folded, a single break between two lines that
start without a blank is a space, and of several breaks the first is dropped. -/
def between (folded : Bool) (inkBefore inkAfter : Bool) (lineBreak breaks : Text) : Text :=
  if folded && lineBreak == ['\n'] && inkBefore && inkAfter then
    if breaks.isEmpty then [' '] else breaks
  else lineBreak ++ breaks

/-- The lines of a block scalar from the start of one on, and what is left after them. The first
`skip` characters are read already, and `ink` says whether the current line started with a
character other than a blank. -/
def lines (folded : Bool) (chomping : Chomping) (indent : Nat) (ink : Bool) (skip : Nat) :
    Text → Text × Text
  | [] => ([], [])
  | c :: rest => match skip with
    | skip + 1 => lines folded chomping indent ink skip rest
    | 0 =>
      if isBreak c then
        let (breaks, column, size) := breaks indent 0 rest
        let after := rest.drop size
        if column = indent ∧ !after.isEmpty then
          let inkAfter := startsInk after
          let (text, rest) := lines folded chomping indent inkAfter size rest
          (between folded ink inkAfter [breakText c] breaks ++ text, rest)
        else (tail chomping [breakText c] breaks, after)
      else
        let (text, rest) := lines folded chomping indent ink 0 rest
        (c :: text, rest)

/-- A block scalar after its indicator and what is left after it. `least` is the least column of
its lines; if no indentation is asked for, the first line decides. -/
def scan (folded : Bool) (least : Nat) (text : Text) : Except Fault (Text × Text) := do
  let (chomping, increment, rest) ← header text
  let rest ← dropLineRest rest
  let (start, indent, column, size) := match increment with
    | some n =>
      let indent := least + n - 1
      let (start, column, size) := breaks indent 0 rest
      (start, indent, column, size)
    | none =>
      let (start, widest, column, size) := leading 0 0 rest
      (start, max least widest, column, size)
  let after := rest.drop size
  if column = indent ∧ !after.isEmpty then
    let (text, rest) := lines folded chomping indent (startsInk after) 0 after
    return (start ++ text, rest)
  else return (tail chomping [] start, after)

end PoolLogin.Yaml.Block
