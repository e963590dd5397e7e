import PoolLogin.Calendar
import PoolLogin.Text.Quoted

/-!
The ways in which a text fails to have a value. It is either no YAML at all, or YAML in which a
scalar has no value of its type.
-/

namespace PoolLogin.Yaml

/-- Why a text has no value. -/
inductive Fault where
  | malformed
  /-- A text is no whole number in a base. -/
  | notInteger (base : Nat) (text : WideText)
  /-- A whole number has too many digits. -/
  | numberTooLong (digits : Nat)
  /-- A text is no number. -/
  | notNumber (text : WideText)
  /-- Where a number should stand there is nothing. -/
  | noNumber
  /-- A number in base sixty has so many places that the weight of one is out of range. -/
  | weightTooLarge
  /-- A word is no truth value. -/
  | notBool (word : WideText)
  /-- A text is not written like a date. -/
  | notTimestamp
  /-- A date is given by a mapping. -/
  | timestampMapping
  | calendar (fault : Calendar.Fault)
  /-- The number of an escape is that of no character. -/
  | noCharacter
  /-- The number of an escape takes more than 31 bits. -/
  | characterTooLarge
  /-- Too many collections lie in one another. -/
  | tooDeep
  /-- The text of a mapping is the text of that mapping itself. -/
  | endless
  deriving DecidableEq, Repr

/-- Whether a fault is met where none is expected, so that it says nothing about the text. -/
def Fault.isBreakdown : Fault → Bool
  | noNumber => true
  | weightTooLarge => true
  | notBool _ => true
  | notTimestamp => true
  | timestampMapping => true
  | characterTooLarge => true
  | tooDeep => true
  | endless => true
  | _ => false

/-- The words for a fault in a text that is YAML. -/
def Fault.message : Fault → Text
  | malformed => []
  | notInteger base text =>
    "invalid literal for int() with base ".toList ++ Numeral.natural base ++ ": ".toList ++
      (Text.quotedWide text).take 200
  | numberTooLong digits =>
    "Exceeds the limit (4300 digits) for integer string conversion: value has ".toList ++
      Numeral.natural digits ++
      " digits; use sys.set_int_max_str_digits() to increase the limit".toList
  | notNumber text => "could not convert string to float: ".toList ++ Text.quotedWide text
  | noNumber => "string index out of range".toList
  | weightTooLarge => "int too large to convert to float".toList
  | notBool word => Text.quotedWide word
  | notTimestamp => "'NoneType' object has no attribute 'groupdict'".toList
  | timestampMapping => "expected string or bytes-like object, got 'list'".toList
  | calendar fault => fault.message
  | noCharacter => "chr() arg not in range(0x110000)".toList
  | characterTooLarge => "Python int too large to convert to C int".toList
  | tooDeep => "maximum recursion depth exceeded".toList
  | endless => "maximum recursion depth exceeded".toList

end PoolLogin.Yaml
