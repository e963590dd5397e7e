import PoolLogin.Datum.Basic
import PoolLogin.Decimal.Reader
import PoolLogin.Text.Base64
import PoolLogin.Text.Case
import PoolLogin.Yaml.Scalar

/-!
The values of scalars. The type of a scalar says how its text is read, and a text that does not have
the form of its type has no value.
-/

namespace PoolLogin.Yaml.Scalar

/-- A whole number in a base, as part of a scalar. -/
def integer (base : Nat) (text : WideText) : Except Fault Int :=
  match Numeral.readInteger base text with
  | .ok n => .ok n
  | .error .malformed => .error (.notInteger base text)
  | .error (.tooLong digits) => .error (.numberTooLong digits)

def number (text : WideText) : Except Fault Binary64 :=
  match Decimal.read? text with
  | some x => .ok x
  | none => .error (.notNumber text)

/-- The text of a number without the underscores that set off its digits. -/
def bare (text : WideText) : WideText := text.filter (· != .char '_')

/-- A sign that a text may start with, read as whether it is a minus sign, and what follows it. The
text must not be empty. -/
def signed (text : WideText) : Except Fault (Bool × WideText) :=
  match text with
  | [] => .error .noNumber
  | .char '-' :: rest => .ok (true, rest)
  | .char '+' :: rest => .ok (false, rest)
  | text => .ok (false, text)

def parts (text : WideText) : List WideText := Text.splitAt (· == .char ':') text

/-- A whole number: in base two after `0b`, sixteen after `0x`, eight after another zero, sixty
with colons, and else ten. -/
def int (text : WideText) : Except Fault Int := do
  let (negative, body) ← signed (bare text)
  let n ← match body with
    | [] => throw .noNumber
    | [.char '0'] => pure 0
    | .char '0' :: .char 'b' :: rest => integer 2 rest
    | .char '0' :: .char 'x' :: rest => integer 16 rest
    | .char '0' :: _ => integer 8 body
    | _ =>
      if body.contains (.char ':') then do
        let numbers ← (parts body).mapM (integer 10)
        pure (numbers.foldl (fun n part => n * 60 + part) 0)
      else integer 10 body
  return if negative then -n else n

/-- The sum of numbers in base sixty, the last first, and every step rounded. `weight` is that of the
first of them. -/
def weightedSum (weight : Nat) (sum : Binary64) : List Binary64 → Except Fault Binary64
  | [] => .ok sum
  | x :: rest => match Binary64.ofNat weight with
    | .infinite _ => .error .weightTooLarge
    | w => weightedSum (weight * 60) (sum.add (x.mul w)) rest

/-- A floating-point number, in base sixty with colons. -/
def float (text : WideText) : Except Fault Binary64 := do
  let (negative, body) ← signed (Text.smallLetters (bare text))
  let x ←
    if body = .ofText ".inf".toList then pure (.infinite false)
    else if body = .ofText ".nan".toList then pure .nan
    else if body.contains (.char ':') then do
      let numbers ← (parts body).mapM number
      weightedSum 1 (.zero false) numbers.reverse
    else number body
  return if negative then x.neg else x

/-- Whether a text is a floating-point number by its form alone and stands for no number. -/
def isNaN (text : WideText) : Bool :=
  match signed (Text.smallLetters (bare text)) with
  | .ok (_, body) => body = .ofText ".nan".toList
  | .error _ => false

def timestamp (text : WideText) : Except Fault Datum :=
  match text.text?.bind fun text => timestamp? false (dropFinalBreak text) with
  | none => .error .notTimestamp
  | some { year, month, day, time } =>
    let result := match time with
      | none => (Calendar.date year month day).map Datum.date
      | some (hour, minute, second, micro, offset) =>
        (Calendar.moment year month day hour minute second micro offset).map Datum.moment
    result.mapError .calendar

def binary (text : WideText) : Except Fault Datum :=
  match text.text? with
  | none => .error .malformed
  | some text =>
    if text.all fun c => c.toNat < 0x80 then
      match Base64.decode text with
      | some bytes => .ok (.bytes bytes)
      | none => .error .malformed
    else .error .malformed

def bool (text : WideText) : Except Fault Datum :=
  let word := Text.smallLetters text
  if ["yes", "true", "on"].any (.ofText ·.toList == word) then .ok (.bool true)
  else if ["no", "false", "off"].any (.ofText ·.toList == word) then .ok (.bool false)
  else .error (.notBool word)

/-- The value of a scalar of a type. Collections and what is no type of values have none. -/
def value (tag : Tag) (text : WideText) : Except Fault Datum :=
  match tag with
  | .null => .ok .null
  | .bool => bool text
  | .int => (int text).map Datum.int
  | .float => (float text).map Datum.float
  | .string => .ok (.string text)
  | .binary => binary text
  | .timestamp => timestamp text
  | _ => .error .malformed

end PoolLogin.Yaml.Scalar
