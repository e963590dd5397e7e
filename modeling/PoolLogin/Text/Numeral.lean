import PoolLogin.Text.Wide

/-!
Whole numbers as text. `decimal` and `hexadecimal` write them. `readInteger` reads them as people
type them: white space around, a sign, the mark of the base, and the decimal digits of every
script.
-/

namespace PoolLogin.Numeral

/-- The digits of a natural number in base ten. -/
def natural (n : Nat) : Text := Nat.toDigits 10 n

/-- An integer in base ten, with a minus sign if it is negative. -/
def decimal (n : Int) : Text :=
  if n < 0 then '-' :: natural n.natAbs else natural n.natAbs

/-- The text with zeros put in front until it is `width` long. -/
def padZeros (width : Nat) (digits : Text) : Text :=
  List.replicate (width - digits.length) '0' ++ digits

/-- A natural number in base sixteen with small letters, at least `width` digits long. -/
def hexadecimal (width n : Nat) : Text := padZeros width (Nat.toDigits 16 n)

/-- The value of an ASCII digit or letter as a digit. -/
def asciiDigit? (c : Char) : Option Nat :=
  let n := c.toNat
  if 48 ≤ n ∧ n ≤ 57 then some (n - 48)
  else if 97 ≤ n ∧ n ≤ 122 then some (n - 87)
  else if 65 ≤ n ∧ n ≤ 90 then some (n - 55)
  else none

/-- The zeros of the scripts other than Latin that have decimal digits. The nine characters after
each of them are the other digits. -/
def scriptZeros : List Nat :=
  [0x660, 0x6F0, 0x7C0, 0x966, 0x9E6, 0xA66, 0xAE6, 0xB66, 0xBE6, 0xC66, 0xCE6, 0xD66, 0xDE6,
    0xE50, 0xED0, 0xF20, 0x1040, 0x1090, 0x17E0, 0x1810, 0x1946, 0x19D0, 0x1A80, 0x1A90, 0x1B50,
    0x1BB0, 0x1C40, 0x1C50, 0xA620, 0xA8D0, 0xA900, 0xA9D0, 0xA9F0, 0xAA50, 0xABF0, 0xFF10,
    0x104A0, 0x10D30, 0x11066, 0x110F0, 0x11136, 0x111D0, 0x112F0, 0x11450, 0x114D0, 0x11650,
    0x116C0, 0x11730, 0x118E0, 0x11950, 0x11C50, 0x11D50, 0x11DA0, 0x16A60, 0x16AC0, 0x16B50,
    0x1D7CE, 0x1D7D8, 0x1D7E2, 0x1D7EC, 0x1D7F6, 0x1E140, 0x1E2F0, 0x1E950, 0x1FBF0]

/-- What a code point counts as in a number. Beyond ASCII these are the digits of all scripts and
white space, and anything else counts as a character that stands in no number. -/
def latin : CodePoint → Char
  | .surrogate _ => '?'
  | .char c =>
    if c.toNat < 0x7F then c
    else if Text.isBlank c then ' '
    else match scriptZeros.find? fun first => first ≤ c.toNat && c.toNat < first + 10 with
      | some first => Char.ofNat (48 + (c.toNat - first))
      | none => '?'

/-- The white space that may stand around a number. -/
def isSpace (c : Char) : Bool := c == ' ' || (9 ≤ c.toNat && c.toNat ≤ 13)

/-- Why a text is no integer. -/
inductive Fault where
  /-- It is not written like one. -/
  | malformed
  /-- It has more digits than are read. -/
  | tooLong (digits : Nat)
  deriving DecidableEq, Repr

/-- The most digits of a number that is read or written in base ten. -/
def maxDigits : Nat := 4300

def digit? (base : Nat) (c : Char) : Option Nat := (asciiDigit? c).filter (· < base)

/-- The number that a list of digits stands for. -/
def value (base : Nat) (digits : List Nat) : Nat := digits.foldl (fun n d => n * base + d) 0

/-- A sign in front of a text, read as whether it is a minus sign. -/
def splitSign : Text → Bool × Text
  | '-' :: rest => (true, rest)
  | '+' :: rest => (false, rest)
  | text => (false, text)

/-- The text after the mark of its base (`0x`, `0o` or `0b`), which may be left out. -/
def dropBaseMark (base : Nat) : Text → Text
  | '0' :: mark :: rest =>
    let marked := match mark.toLower with
      | 'x' => base == 16
      | 'o' => base == 8
      | 'b' => base == 2
      | _ => false
    if marked then rest else '0' :: mark :: rest
  | text => text

/-- Read an integer in base two, eight, ten or sixteen. Only in base ten is its length limited, and
a row of digits that is too long counts for more than what follows it. -/
def readInteger (base : Nat) (text : WideText) : Except Fault Int :=
  let (negative, numeral) := splitSign ((text.map latin).dropWhile isSpace)
  let (row, rest) := (dropBaseMark base numeral).span fun c => (digit? base c).isSome
  let digits := row.filterMap (digit? base)
  if base = 10 ∧ maxDigits < digits.length then .error (.tooLong digits.length)
  else if digits.isEmpty || !rest.all isSpace then .error .malformed
  else
    let n : Int := value base digits
    .ok (if negative then -n else n)

end PoolLogin.Numeral
