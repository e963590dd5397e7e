import PoolLogin.Text.Utf8
import PoolLogin.Yaml.Character

/-!
Anchors, tags and directives: the properties that stand in front of nodes and documents.
-/

namespace PoolLogin.Yaml

/-- A tag as it is written: a handle, if it has one, and what follows it. -/
structure WrittenTag where
  handle : Option Text
  suffix : Text
  deriving DecidableEq, Repr

/-- A line that starts with a percent sign. -/
inductive Directive where
  | version (major minor : Nat)
  /-- What a handle stands for. -/
  | handle (name meaning : Text)
  | other
  deriving DecidableEq, Repr

/-- The name of an anchor or alias after its indicator. -/
def anchorName (text : Text) : Except Fault (Text × Text) :=
  let (name, rest) := text.span isNameChar
  let ended := match rest with
    | [] => true
    | c :: _ => isGap c || "?:,]\x7d%@\x60".toList.contains c
  if name.isEmpty || !ended then .error .malformed else .ok (name, rest)

/-- The characters of a tag besides letters, digits and escapes. -/
def isTagChar (c : Char) : Bool :=
  ('0' ≤ c && c ≤ '9') || ('A' ≤ c && c ≤ 'Z') || ('a' ≤ c && c ≤ 'z') ||
    "-;/?:@&=+$,_.!~*'()[]".toList.contains c

/-- The bytes of the escapes at the start of a text. -/
def escapedBytes : (fuel : Nat) → Text → Except Fault (Bytes × Text)
  | 0, text => .ok ([], text)
  | fuel + 1, text => match text with
    | '%' :: rest => match hexNumber? 2 rest with
      | some n => do
        let (bytes, rest) ← escapedBytes fuel (rest.drop 2)
        return (UInt8.ofNat n :: bytes, rest)
      | none => .error .malformed
    | _ => .ok ([], text)

/-- The characters of a tag at the start of a text. -/
def tagCharacters : (fuel : Nat) → Text → Except Fault (Text × Text)
  | 0, text => .ok ([], text)
  | fuel + 1, text => match text with
    | '%' :: _ => do
      let (bytes, rest) ← escapedBytes text.length text
      match Utf8.decode bytes with
      | .ok chars =>
        let (more, rest) ← tagCharacters fuel rest
        return (chars ++ more, rest)
      | .error _ => .error .malformed
    | c :: rest =>
      if isTagChar c then do
        let (more, rest) ← tagCharacters fuel rest
        return (c :: more, rest)
      else .ok ([], text)
    | [] => .ok ([], text)

/-- The part of a tag that must not be empty. -/
def tagPart (text : Text) : Except Fault (Text × Text) := do
  let (part, rest) ← tagCharacters text.length text
  if rest.length = text.length then throw .malformed
  return (part, rest)

/-- The handle of a tag: an exclamation mark, or a name between two of them. -/
def tagHandle : Text → Except Fault (Text × Text)
  | '!' :: rest =>
    match rest with
    | ' ' :: _ => .ok (['!'], rest)
    | _ => match rest.span isNameChar with
      | (name, '!' :: rest) => .ok ('!' :: (name ++ ['!']), rest)
      | _ => .error .malformed
  | _ => .error .malformed

/-- The text if a space, a line break or the end follows. -/
def thenSpace {α : Type} (result : α × Text) : Except Fault (α × Text) :=
  if atSpace result.2 then .ok result else .error .malformed

def writtenTag (rest : Text) : Except Fault (WrittenTag × Text) := do
  match rest with
  | '<' :: rest =>
    let (suffix, rest) ← tagPart rest
    match rest with
    | '>' :: rest => thenSpace ({ handle := none, suffix }, rest)
    | _ => .error .malformed
  | _ =>
    if atGap rest then thenSpace ({ handle := none, suffix := ['!'] }, rest)
    else
      let word := rest.takeWhile fun c => !(c == ' ' || isBreak c)
      let (handle, rest) ← if word.contains '!' then tagHandle ('!' :: rest) else .ok (['!'], rest)
      let (suffix, rest) ← tagPart rest
      thenSpace ({ handle := some handle, suffix }, rest)

def versionNumber (text : Text) : Except Fault (Nat × Text) :=
  let (digits, rest) := text.span fun c => '0' ≤ c && c ≤ '9'
  if digits.isEmpty then .error .malformed
  else if Numeral.maxDigits < digits.length then .error (.numberTooLong digits.length)
  else .ok (Numeral.value 10 (digits.filterMap Numeral.asciiDigit?), rest)

/-- A directive after its percent sign, with its line. -/
def directive (text : Text) : Except Fault (Directive × Text) := do
  let (name, rest) := text.span isNameChar
  if name.isEmpty || !atSpace rest then throw .malformed
  let (directive, rest) ←
    if name = "YAML".toList then do
      let (major, rest) ← versionNumber (rest.dropWhile (· == ' '))
      match rest with
      | '.' :: rest =>
        let (minor, rest) ← versionNumber rest
        thenSpace (Directive.version major minor, rest)
      | _ => throw .malformed
    else if name = "TAG".toList then do
      let (name, rest) ← tagHandle (rest.dropWhile (· == ' '))
      if rest.head? ≠ some ' ' then throw .malformed
      let (meaning, rest) ← tagPart (rest.dropWhile (· == ' '))
      thenSpace (Directive.handle name meaning, rest)
    else pure (Directive.other, rest.dropWhile fun c => !isBreak c)
  let rest ← dropLineRest rest
  return (directive, rest)

end PoolLogin.Yaml
