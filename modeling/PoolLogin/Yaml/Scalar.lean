import PoolLogin.Text.Lines
import PoolLogin.Yaml.Character

/-!
The types of scalars that are told from their form alone: a scalar without quotes is a truth value,
a number, a date or nothing if it is written like one, and otherwise a text. A line break at the end
of a scalar does not change its form.
-/

namespace PoolLogin.Yaml

/-- The types that nodes can have. -/
inductive Tag where
  | null
  | bool
  | int
  | float
  | string
  | binary
  | timestamp
  | sequence
  | mapping
  | set
  | orderedMap
  | pairs
  /-- The key under which other maps are merged into a map. -/
  | merge
  /-- The key of the value that stands for a map. -/
  | value
  | unknown
  deriving DecidableEq, Repr, Inhabited

namespace Tag

/-- The common start of the names of the standard types. -/
def namespaceText : Text := "tag:yaml.org,2002:".toList

def ofText (text : Text) : Tag :=
  match Text.after? namespaceText text with
  | none => unknown
  | some name =>
    let known : List (String × Tag) :=
      [("null", null), ("bool", bool), ("int", int), ("float", float), ("str", string),
        ("binary", binary), ("timestamp", timestamp), ("seq", sequence), ("map", mapping),
        ("set", set), ("omap", orderedMap), ("pairs", pairs), ("merge", merge),
        ("value", value)]
    match known.find? fun entry => entry.1.toList == name with
    | some entry => entry.2
    | none => unknown

/-- Whether a tag is a type of scalars that have values. -/
def isScalar (tag : Tag) : Bool :=
  [null, bool, int, float, string, binary, timestamp].contains tag

end Tag

namespace Scalar

def isDigit (c : Char) : Bool := '0' ≤ c && c ≤ '9'

def isDigitMark (c : Char) : Bool := isDigit c || c == '_'

/-- Words with their spellings in small letters, capitals, and small letters after a capital. -/
def spellings (words : List String) : List Text :=
  words.flatMap fun word =>
    let small := word.toList
    [small, small.map Char.toUpper, match small with
      | [] => []
      | c :: rest => c.toUpper :: rest]

def boolWords : List Text := spellings ["yes", "no", "true", "false", "on", "off"]

/-- What stands for nothing. -/
def nullWords : List Text := [] :: ['~'] :: spellings ["null"]

/-- The text after a sign, which may be missing. -/
def dropSign : Text → Text
  | '+' :: rest => rest
  | '-' :: rest => rest
  | text => text

/-- Whether a text is not empty and consists of such characters only. -/
def isRun (isMember : Char → Bool) (text : Text) : Bool := !text.isEmpty && text.all isMember

/-- Whether a text is a number from 0 to 59 with at most two digits. -/
def isSixtieth : Text → Bool
  | [a] => isDigit a
  | [a, b] => '0' ≤ a && a ≤ '5' && isDigit b
  | _ => false

/-- Whether a text has the form of a whole number. -/
def isInt (text : Text) : Bool :=
  match dropSign text with
  | ['0'] => true
  | '0' :: 'b' :: rest => isRun (fun c => c == '0' || c == '1' || c == '_') rest
  | '0' :: 'x' :: rest => isRun (fun c => (hexDigit? c).isSome || c == '_') rest
  | '0' :: rest => isRun (fun c => ('0' ≤ c && c ≤ '7') || c == '_') rest
  | c :: rest =>
    isDigit c && match Text.splitAt (· == ':') rest with
      | [] => false
      | first :: parts => first.all isDigitMark && parts.all isSixtieth
  | [] => false

/-- Whether a text is empty or an exponent with its sign. -/
def isExponent : Text → Bool
  | [] => true
  | e :: sign :: rest => (e == 'e' || e == 'E') && (sign == '+' || sign == '-') && isRun isDigit rest
  | _ => false

/-- Whether a text has the form of a floating-point number: it needs a point, and an exponent needs
a sign. -/
def isFloat (text : Text) : Bool :=
  let body := dropSign text
  isDecimal body || isPointed text || isSexagesimal body ||
    ["inf", "Inf", "INF"].any (fun word => body == '.' :: word.toList) ||
    ["nan", "NaN", "NAN"].any (fun word => text == '.' :: word.toList)
where
  /-- Digits, a point, and perhaps further digits. -/
  isDecimal (body : Text) : Bool :=
    match body.span (· != '.') with
    | (c :: whole, '.' :: rest) =>
      isDigit c && whole.all isDigitMark && isExponent (rest.dropWhile isDigitMark)
    | _ => false
  /-- A point and digits. -/
  isPointed : Text → Bool
    | '.' :: c :: rest => isDigit c && isExponent (rest.dropWhile isDigitMark)
    | _ => false
  /-- Numbers in base sixty, and a point. -/
  isSexagesimal (body : Text) : Bool :=
    match body.span (· != '.') with
    | (whole, '.' :: rest) =>
      rest.all isDigitMark && match Text.splitAt (· == ':') whole with
        | (c :: first) :: part :: parts =>
          isDigit c && first.all isDigitMark && (part :: parts).all isSixtieth
        | _ => false
    | _ => false

/-- The numbers of a date and time as they are written. -/
structure Timestamp where
  year : Nat
  month : Nat
  day : Nat
  /-- Hour, minute, second, microsecond, and the seconds of the offset. -/
  time : Option (Nat × Nat × Nat × Nat × Option Int)
  deriving Repr

/-- A number of `least` to `most` digits at the start of a text. -/
def number? (least most : Nat) (text : Text) : Option (Nat × Text) :=
  let digits := (text.take most).takeWhile isDigit
  if digits.length < least then none
  else some (digits.foldl (fun n c => n * 10 + (c.toNat - 48)) 0, text.drop digits.length)

def numberAfter? (c : Char) (least most : Nat) : Text → Option (Nat × Text)
  | [] => none
  | d :: rest => if c = d then number? least most rest else none

def isBlank (c : Char) : Bool := c == ' ' || c == '\t'

/-- The fraction of a second in microseconds; further digits are cut off. -/
def fraction (text : Text) : Nat × Text :=
  match text with
  | '.' :: rest =>
    let digits := rest.takeWhile isDigit
    let micro := (digits.take 6 ++ List.replicate (6 - digits.length) '0').foldl
      (fun n c => n * 10 + (c.toNat - 48)) 0
    (micro, rest.drop digits.length)
  | _ => (0, text)

def offset? (text : Text) : Option (Option Int) :=
  match text, text.dropWhile isBlank with
  | [], _ => some none
  | _, ['Z'] => some (some 0)
  | _, sign :: rest =>
    if sign = '+' ∨ sign = '-' then do
      let (hours, rest) ← number? 1 2 rest
      let (minutes, rest) ← if rest.isEmpty then some (0, []) else numberAfter? ':' 2 2 rest
      if !rest.isEmpty then none
      let seconds : Int := (hours * 60 + minutes) * 60
      return some (if sign = '-' then -seconds else seconds)
    else none
  | _, [] => none

/-- Read a date, or a date with a time. A date alone has two digits for month and day. -/
def timestamp? (strict : Bool) (text : Text) : Option Timestamp := do
  let (year, rest) ← number? 4 4 text
  let (month, rest) ← numberAfter? '-' 1 2 rest
  let (day, rest) ← numberAfter? '-' 1 2 rest
  match rest with
  | [] =>
    if strict && text.length != 10 then none
    return { year, month, day, time := none }
  | c :: rest =>
    let rest ← if c = 'T' ∨ c = 't' then some rest
      else if isBlank c then some (rest.dropWhile isBlank) else none
    let (hour, rest) ← number? 1 2 rest
    let (minute, rest) ← numberAfter? ':' 2 2 rest
    let (second, rest) ← numberAfter? ':' 2 2 rest
    let (micro, rest) := fraction rest
    let offset ← offset? rest
    return { year, month, day, time := some (hour, minute, second, micro, offset) }

/-- The text without a line break at its end. -/
def dropFinalBreak (text : Text) : Text :=
  if text.getLast? = some '\n' then text.dropLast else text

/-- The type of a text without a line break at its end. -/
def formOf (text : Text) : Tag :=
  if nullWords.contains text then .null
  else if boolWords.contains text then .bool
  else if isFloat text then .float
  else if isInt text then .int
  else if text = ['<', '<'] then .merge
  else if (timestamp? true text).isSome then .timestamp
  else if text = ['='] then .value
  else if ["!", "&", "*"].any (·.toList == text) then .unknown
  else .string

/-- The type of a scalar that is told from its form. Only a scalar that is empty from the start stands
for nothing, and surrogates have a place in texts only. -/
def form (text : WideText) : Tag :=
  match text.text? with
  | none => .string
  | some ['\n'] => .string
  | some text => formOf (dropFinalBreak text)

end Scalar

end PoolLogin.Yaml
