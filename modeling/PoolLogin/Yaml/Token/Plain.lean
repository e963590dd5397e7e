import PoolLogin.Yaml.Character

/-!
Scalars without quotes. They end where a comment, a value or, inside brackets, an indicator of
collections starts; over line breaks they go on as long as the lines are indented.
-/

namespace PoolLogin.Yaml.Plain

/-- The indicators that end a plain scalar inside brackets. -/
def isFlowIndicator (c : Char) : Bool :=
  c == ',' || c == '?' || c == '[' || c == ']' || c == '\x7b' || c == '\x7d'

/-- Whether a colon is followed by what makes it the mark of a value. -/
def colonEnds (inFlow : Bool) (rest : Text) : Bool :=
  atGap rest || inFlow && match rest with
    | [] => false
    | c :: _ => c == ',' || c == '[' || c == ']' || c == '\x7b' || c == '\x7d'

/-- Whether a run of a plain scalar ends in front of `c` and what follows it. -/
def ends (inFlow : Bool) (c : Char) (rest : Text) : Bool :=
  isGap c || (c == ':' && colonEnds inFlow rest) || (inFlow && isFlowIndicator c)

/-- The indicators with which a plain scalar cannot start. -/
def isIndicator (c : Char) : Bool :=
  "-?:,[]\x7b\x7d#&*!|>'\"%@\x60".toList.contains c

/-- Whether a plain scalar starts here. Some indicators may start one if no gap follows. -/
def starts (inFlow : Bool) : Text → Bool
  | [] => false
  | c :: rest =>
    (!isGap c && !isIndicator c) ||
      (!atGap rest && (c == '-' || (!inFlow && (c == '?' || c == ':'))))

/-- What stands between two runs of a plain scalar. -/
structure Gap where
  /-- What it means; empty if the scalar cannot go on after it. -/
  text : Text
  /-- How many characters it takes. -/
  size : Nat
  /-- The column after it, if it holds a line break. -/
  column : Option Nat

/-- The rest of a gap after a line break: breaks are kept and spaces dropped. A document's mark at
the start of a line ends the scalar, and then there is no text. -/
def gapLines (column : Nat) : Text → Option Text × Nat × Nat
  | [] => (some [], 0, column)
  | c :: rest =>
    if column = 0 ∧ atAnyDocumentMark (c :: rest) then (none, 0, 0)
    else if isBreak c then
      let (text, size, column) := gapLines 0 rest
      (text.map (breakText c :: ·), size + 1, column)
    else if c = ' ' then
      let (text, size, column) := gapLines (column + 1) rest
      (text, size + 1, column)
    else (some [], 0, column)

/-- The gap at the start of a text. -/
def gap (text : Text) : Gap :=
  let spaces := text.takeWhile (· == ' ')
  match text.drop spaces.length with
  | [] => { text := spaces, size := spaces.length, column := none }
  | c :: rest =>
    if isBreak c then
      let (more, size, column) := gapLines 0 rest
      let text := match more with
        | none => []
        | some more =>
          if breakText c ≠ '\n' then breakText c :: more
          else if more.isEmpty then [' '] else more
      { text, size := spaces.length + 1 + size, column := some column }
    else { text := spaces, size := spaces.length, column := none }

/-- Whether a scalar goes on after a gap. -/
def goesOn (inFlow : Bool) (indent : Nat) (gap : Gap) : Text → Bool
  | [] => false
  | c :: rest =>
    !gap.text.isEmpty && c != '#' && !ends inFlow c rest &&
      (inFlow || gap.column.all (indent ≤ ·))

/-- What a plain scalar was read as. -/
structure Scanned where
  text : Text
  /-- How many characters it takes, the gap after it among them. -/
  size : Nat
  /-- Whether that gap holds a line break. -/
  broken : Bool

/-- Put text that takes `size` characters in front. -/
def Scanned.after (text : Text) (size : Nat) (s : Scanned) : Scanned :=
  { s with text := text ++ s.text, size := size + s.size }

/-- A plain scalar. `indent` is the least column at which it goes on, and the first `skip`
characters are read already. -/
def scan (inFlow : Bool) (indent : Nat) (skip : Nat) : Text → Scanned
  | [] => { text := [], size := 0, broken := false }
  | c :: rest => match skip with
    | skip + 1 => (scan inFlow indent skip rest).after [] 1
    | 0 =>
      if ends inFlow c rest then
        let gap := gap (c :: rest)
        if 0 < gap.size ∧ goesOn inFlow indent gap ((c :: rest).drop gap.size) then
          (scan inFlow indent (gap.size - 1) rest).after gap.text 1
        else { text := [], size := gap.size, broken := gap.column.isSome }
      else (scan inFlow indent 0 rest).after [c] 1

end PoolLogin.Yaml.Plain
