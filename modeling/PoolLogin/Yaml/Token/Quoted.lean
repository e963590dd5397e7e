import PoolLogin.Yaml.Character

/-!
Scalars between quotes. Line breaks inside them are folded: a single break counts as a space, and
further breaks are kept.
-/

namespace PoolLogin.Yaml.Quoted

/-- The breaks in front of a text, blanks between them being dropped, and how many characters they
take. `lineStart` says whether a line starts here; a document's mark must not stand there. -/
def breaks (lineStart : Bool) : Text → Except Fault (Text × Nat)
  | [] => .ok ([], 0)
  | c :: rest =>
    if lineStart && atAnyDocumentMark (c :: rest) then .error .malformed
    else if isBreak c then do
      let (text, size) ← breaks true rest
      return (breakText c :: text, size + 1)
    else if c = ' ' ∨ c = '\t' then do
      let (text, size) ← breaks false rest
      return (text, size + 1)
    else .ok ([], 0)

/-- What a run of blanks and line breaks means, and how many characters it takes. -/
def gap (text : Text) : Except Fault (Text × Nat) :=
  let blanks := text.takeWhile fun c => c == ' ' || c == '\t'
  match text.drop blanks.length with
  | [] => .error .malformed
  | c :: rest =>
    if isBreak c then do
      let (more, size) ← breaks true rest
      let first := if breakText c ≠ '\n' then [breakText c] else if more.isEmpty then [' '] else []
      return (first ++ more, blanks.length + 1 + size)
    else .ok (blanks, blanks.length)

/-- The characters that a letter after a backslash stands for. -/
def letterEscape? (c : Char) : Option Char :=
  match c with
  | '0' => some '\x00'
  | 'a' => some '\x07'
  | 'b' => some '\x08'
  | 't' => some '\t'
  | '\t' => some '\t'
  | 'n' => some '\n'
  | 'v' => some '\x0b'
  | 'f' => some '\x0c'
  | 'r' => some '\r'
  | 'e' => some '\x1b'
  | ' ' => some ' '
  | '"' => some '"'
  | '\\' => some '\\'
  | '/' => some '/'
  | 'N' => some '\u0085'
  | '_' => some '\u00a0'
  | 'L' => some lineSeparator
  | 'P' => some paragraphSeparator
  | _ => none

/-- How many digits follow the letter of a numeric escape. -/
def escapeDigits? (c : Char) : Option Nat :=
  match c with
  | 'x' => some 2
  | 'u' => some 4
  | 'U' => some 8
  | _ => none

def codePoint (n : Nat) : Except Fault CodePoint :=
  if n < 0x110000 then .ok (.ofNat n)
  else if n < 0x80000000 then .error .noCharacter
  else .error .characterTooLarge

/-- What follows a backslash: what it means, and how many characters it takes. A line break is
left out with the blanks after it. -/
def escape : Text → Except Fault (WideText × Nat)
  | [] => .error .malformed
  | c :: rest =>
    match letterEscape? c, escapeDigits? c with
    | some d, _ => .ok ([.char d], 1)
    | none, some count =>
      match hexNumber? count rest with
      | some n => do return ([← codePoint n], count + 1)
      | none => .error .malformed
    | none, none =>
      if isBreak c then do
        let (text, size) ← breaks true rest
        return (.ofText text, size + 1)
      else .error .malformed

/-- The rest of a scalar after its opening quote, and how many characters it takes with the closing
one. The first `skip` characters are read already. -/
def double (skip : Nat) : Text → Except Fault (WideText × Nat)
  | [] => .error .malformed
  | c :: rest => match skip with
    | skip + 1 => do
      let (text, size) ← double skip rest
      return (text, size + 1)
    | 0 =>
      if c = '"' then .ok ([], 1)
      else if c = '\\' then do
        let (chars, taken) ← escape rest
        let (text, size) ← double taken rest
        return (chars ++ text, size + 1)
      else if isGap c then do
        let (chars, taken) ← gap (c :: rest)
        let (text, size) ← double (taken - 1) rest
        return (.ofText chars ++ text, size + 1)
      else do
        let (text, size) ← double 0 rest
        return (.char c :: text, size + 1)

/-- The same for a scalar between single quotes, in which two of them stand for one and a
backslash for itself. -/
def single (skip : Nat) : Text → Except Fault (Text × Nat)
  | [] => .error .malformed
  | c :: rest => match skip with
    | skip + 1 => do
      let (text, size) ← single skip rest
      return (text, size + 1)
    | 0 =>
      if c = '\x27' then
        if rest.head? = some '\x27' then do
          let (text, size) ← single 1 rest
          return ('\x27' :: text, size + 1)
        else .ok ([], 1)
      else if isGap c then do
        let (chars, taken) ← gap (c :: rest)
        let (text, size) ← single (taken - 1) rest
        return (chars ++ text, size + 1)
      else do
        let (text, size) ← single 0 rest
        return (c :: text, size + 1)

end PoolLogin.Yaml.Quoted
