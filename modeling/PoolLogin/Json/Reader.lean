import PoolLogin.Entries
import PoolLogin.Json.Value
import PoolLogin.Text.Numeral
import PoolLogin.Text.Split

/-!
Reading JSON. A reader returns what it read and the text that is left; a fault remembers how many
characters were left where it was found, which gives its line and column once the whole text is at
hand.
-/

namespace PoolLogin.Json

/-- What is wrong with a text. -/
inductive Cause where
  | expectingValue
  | extraData
  | expectingName
  | expectingColon
  | expectingComma
  | unterminatedText
  | controlCharacter
  | unknownEscape
  | badUnitEscape
  | byteOrderMark
  deriving DecidableEq, Repr

/-- The two kinds of brackets. -/
inductive Bracket where
  | array
  | object
  deriving DecidableEq, Repr

/-- Why a text cannot be read: it is no JSON from the place on where `left` characters are left, a
whole number in it has too many digits, or a bracket opens inside too many others. -/
inductive Fault where
  | malformed (cause : Cause) (left : Nat)
  | numberTooLong (digits : Nat)
  | tooDeep (bracket : Bracket)
  deriving DecidableEq, Repr

/-- The fault of a cause in front of `rest`. -/
def fail {α : Type} (cause : Cause) (rest : Text) : Except Fault α :=
  .error (.malformed cause rest.length)

def isSpace (c : Char) : Bool := c == ' ' || c == '\t' || c == '\n' || c == '\r'

/-- The text without the white space in front of it. -/
def skipSpace (text : Text) : Text := text.dropWhile isSpace

def isDigit (c : Char) : Bool := '0' ≤ c && c ≤ '9'

/-! ### Texts -/

/-- The character that a letter after a backslash stands for. -/
def letterEscape (c : Char) : Option Char :=
  if c = '"' ∨ c = '\\' ∨ c = '/' then some c
  else if c = 'n' then some '\n'
  else if c = 'r' then some '\r'
  else if c = 't' then some '\t'
  else if c = 'b' then some '\x08'
  else if c = 'f' then some '\x0c'
  else none

/-- The number that four digits in base sixteen in front of a text give. -/
def unit? : Text → Option Nat
  | a :: b :: c :: d :: _ => match digit? a, digit? b, digit? c, digit? d with
    | some a, some b, some c, some d => some (((a * 16 + b) * 16 + c) * 16 + d)
    | _, _, _, _ => none
  | _ => none
where
  /-- A digit in base sixteen. -/
  digit? (c : Char) : Option Nat := (Numeral.asciiDigit? c).filter (· < 16)

/-- The unit after a high surrogate, if an escape of one follows inside the text. -/
def partner? : Text → Except Fault (Option Nat)
  | '\\' :: 'u' :: rest =>
    if (rest.drop 4).isEmpty then .ok none
    else match unit? rest with
      | none => fail .badUnitEscape ('u' :: rest)
      | some n => .ok (some n)
  | _ => .ok none

/-- The code point that an escape stands for, and how many characters it takes after the backslash.
Four digits are read only if something follows them. A surrogate without a partner stands for
itself. -/
def readEscape : Text → Except Fault (CodePoint × Nat)
  | [] => fail .unterminatedText []
  | 'u' :: rest =>
    if (rest.drop 4).isEmpty then fail .badUnitEscape ('u' :: rest)
    else match unit? rest with
      | none => fail .badUnitEscape ('u' :: rest)
      | some n =>
        if 0xD800 ≤ n ∧ n < 0xDC00 then do
          match ← partner? (rest.drop 4) with
          | some m =>
            if 0xDC00 ≤ m ∧ m < 0xE000 then
              return (.ofNat (0x10000 + (n - 0xD800) * 0x400 + (m - 0xDC00)), 11)
            else return (.ofNat n, 5)
          | none => return (.ofNat n, 5)
        else .ok (.ofNat n, 5)
  | c :: rest => match letterEscape c with
    | some d => .ok (.char d, 1)
    | none => fail .unknownEscape ('\\' :: c :: rest)

/-- The rest of a text after its opening quote, the first `skip` characters being read already. -/
def readTextFrom (skip : Nat) : Text → Except Fault (WideText × Text)
  | [] => fail .unterminatedText []
  | c :: rest => match skip with
    | skip + 1 => readTextFrom skip rest
    | 0 =>
      if c = '"' then .ok ([], rest)
      else if c = '\\' then do
        let (d, size) ← readEscape rest
        let (text, rest) ← readTextFrom size rest
        return (d :: text, rest)
      else if c.toNat < 0x20 then fail .controlCharacter (c :: rest)
      else do
        let (text, rest) ← readTextFrom 0 rest
        return (.char c :: text, rest)

/-- A text from its opening quote on. If it does not end, the fault is at that quote. -/
def readText (text : Text) : Except Fault (WideText × Text) :=
  match readTextFrom 0 text.tail with
  | .error (.malformed .unterminatedText _) => fail .unterminatedText text
  | result => result

/-! ### Numbers -/

/-- The whole part of a number: a zero, or digits that do not start with one. -/
def readWhole : Text → Option (Text × Text)
  | '0' :: rest => some (['0'], rest)
  | c :: rest => if isDigit c then some ((c :: rest).span isDigit) else none
  | [] => none

/-- The fraction of a number, if a point and a digit follow. -/
def readFraction : Text → Option (Text × Text)
  | '.' :: c :: rest => if isDigit c then some ((c :: rest).span isDigit) else none
  | _ => none

/-- The exponent of a number, if one follows. -/
def readExponent : Text → Option (Int × Text)
  | e :: rest =>
    if e = 'e' ∨ e = 'E' then
      let (negative, rest) := Numeral.splitSign rest
      match rest.span isDigit with
      | ([], _) => none
      | (digits, rest) =>
        let n : Int := digitsValue digits
        some (if negative then -n else n, rest)
    else none
  | [] => none
where
  /-- The value of a row of digits. -/
  digitsValue (digits : Text) : Nat := Numeral.value 10 (digits.filterMap Numeral.asciiDigit?)

/-- A number. It is whole if it has neither a fraction nor an exponent. -/
def readNumber (text : Text) : Except Fault (Json × Text) :=
  let (negative, body) := match text with
    | '-' :: rest => (true, rest)
    | _ => (false, text)
  match readWhole body with
  | none => fail .expectingValue text
  | some (whole, rest) =>
    let fraction := readFraction rest
    let rest := (fraction.map (·.2)).getD rest
    let exponent := readExponent rest
    let rest := (exponent.map (·.2)).getD rest
    match fraction, exponent with
    | none, none =>
      if Numeral.maxDigits < whole.length then .error (.numberTooLong whole.length)
      else
        let n : Int := readExponent.digitsValue whole
        .ok (.int (if negative then -n else n), rest)
    | _, _ =>
      let places := (fraction.map (·.1)).getD []
      let mantissa := readExponent.digitsValue (whole ++ places)
      let power := (exponent.map (·.1)).getD 0 - places.length
      .ok (.float (Binary64.ofDecimal negative mantissa power), rest)

/-! ### Values -/

/-- The values that are written as words. -/
def words : List (Text × Json) :=
  [("null".toList, .null), ("true".toList, .bool true), ("false".toList, .bool false),
    ("NaN".toList, .float .nan), ("Infinity".toList, .float (.infinite false)),
    ("-Infinity".toList, .float (.infinite true))]

def readScalar (text : Text) : Except Fault (Json × Text) :=
  match words.findSome? fun (word, value) => (Text.after? word text).map (value, ·) with
  | some result => .ok result
  | none => readNumber text

/-- The most arrays and objects in one another that are read. Reading goes down a level with each of
them; of the thousand levels that there are, whoever has a file read stands on the first fifteen. -/
def maxDepth : Nat := 985

mutual

/-- A value at the start of a text, inside `depth` brackets. -/
def readValue : (fuel depth : Nat) → Text → Except Fault (Json × Text)
  | 0, _, text => fail .expectingValue text
  | fuel + 1, depth, text => match text with
    | '"' :: _ => do
      let (s, rest) ← readText text
      return (.string s, rest)
    | '[' :: rest =>
      if maxDepth ≤ depth then .error (.tooDeep .array)
      else match skipSpace rest with
        | ']' :: rest => .ok (.arr [], rest)
        | rest => do
          let (items, rest) ← readItems fuel (depth + 1) rest
          return (.arr items, rest)
    | '\x7b' :: rest =>
      if maxDepth ≤ depth then .error (.tooDeep .object)
      else match skipSpace rest with
        | '\x7d' :: rest => .ok (.obj [], rest)
        | rest => do
          let (members, rest) ← readMembers fuel (depth + 1) rest
          return (.obj (Entries.ofList members), rest)
    | text => readScalar text

/-- The items of an array up to its closing bracket. -/
def readItems : (fuel depth : Nat) → Text → Except Fault (List Json × Text)
  | 0, _, text => fail .expectingValue text
  | fuel + 1, depth, text => do
    let (item, rest) ← readValue fuel depth text
    match skipSpace rest with
    | ']' :: rest => return ([item], rest)
    | ',' :: rest =>
      let (items, rest) ← readItems fuel depth (skipSpace rest)
      return (item :: items, rest)
    | rest => fail .expectingComma rest

/-- The members of an object up to its closing bracket. -/
def readMembers : (fuel depth : Nat) → Text → Except Fault (List (WideText × Json) × Text)
  | 0, _, text => fail .expectingName text
  | fuel + 1, depth, text => match text with
    | '"' :: _ => do
      let (key, rest) ← readText text
      match skipSpace rest with
      | ':' :: rest =>
        let (value, rest) ← readValue fuel depth (skipSpace rest)
        match skipSpace rest with
        | '\x7d' :: rest => return ([(key, value)], rest)
        | ',' :: rest =>
          let (members, rest) ← readMembers fuel depth (skipSpace rest)
          return ((key, value) :: members, rest)
        | rest => fail .expectingComma rest
      | rest => fail .expectingColon rest
    | text => fail .expectingName text

end

/-- Read a text that holds one value and white space around it. A byte-order mark is refused. -/
def read (text : Text) : Except Fault Json :=
  match text with
  | '\uFEFF' :: _ => fail .byteOrderMark text
  | _ => do
    let (value, rest) ← readValue (2 * text.length + 2) 0 (skipSpace text)
    match skipSpace rest with
    | [] => return value
    | rest => fail .extraData rest

/-! ### Messages -/

def Cause.message : Cause → Text
  | expectingValue => "Expecting value".toList
  | extraData => "Extra data".toList
  | expectingName => "Expecting property name enclosed in double quotes".toList
  | expectingColon => "Expecting ':' delimiter".toList
  | expectingComma => "Expecting ',' delimiter".toList
  | unterminatedText => "Unterminated string starting at".toList
  | controlCharacter => "Invalid control character at".toList
  | unknownEscape => "Invalid \\escape".toList
  | badUnitEscape => "Invalid \\uXXXX escape".toList
  | byteOrderMark => "Unexpected UTF-8 BOM (decode using utf-8-sig)".toList

/-- The words for a place in a text: its line and column, counted from one, and the characters
before it. -/
def placeMessage (before : Text) : Text :=
  let line := before.count '\n' + 1
  let column := (before.reverse.takeWhile (· != '\n')).length + 1
  ": line ".toList ++ Numeral.natural line ++ " column ".toList ++ Numeral.natural column ++
    " (char ".toList ++ Numeral.natural before.length ++ [')']

/-- The words for a whole number that has too many digits to be read. -/
def tooLongMessage (digits : Nat) : Text :=
  "Exceeds the limit (4300 digits) for integer string conversion: value has ".toList ++
    Numeral.natural digits ++
    " digits; use sys.set_int_max_str_digits() to increase the limit".toList

def Bracket.word : Bracket → Text
  | array => "array".toList
  | object => "object".toList

/-- The words for a fault in a text. -/
def Fault.message (text : Text) : Fault → Text
  | malformed cause left => cause.message ++ placeMessage (text.take (text.length - left))
  | numberTooLong digits => tooLongMessage digits
  | tooDeep bracket =>
    "maximum recursion depth exceeded while decoding a JSON ".toList ++ bracket.word ++
      " from a unicode string".toList

end PoolLogin.Json
