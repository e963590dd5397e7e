import PoolLogin.Decimal.Shortest
import PoolLogin.Json.Value

/-!
JSON values as text. `Style` holds what differs between the written forms: which characters are
escaped, and what is put around commas, colons and brackets.
-/

namespace PoolLogin.Json

/-- The choices of a written form. -/
structure Style where
  /-- How a code point stands in a text. -/
  escape : CodePoint → Text
  /-- What separates two items. -/
  comma : Text
  /-- What separates a key from its value. -/
  colon : Text
  /-- What stands in front of an item at a depth, and in front of a closing bracket at it. -/
  newline : Nat → Text

/-- The escapes of quotes, backslashes and the control characters that have a letter. -/
def letterEscape? (c : Char) : Option Char :=
  if c = '"' ∨ c = '\\' then some c
  else if c = '\n' then some 'n'
  else if c = '\r' then some 'r'
  else if c = '\t' then some 't'
  else if c = '\x08' then some 'b'
  else if c = '\x0c' then some 'f'
  else none

/-- The escape of a 16-bit unit by its number. -/
def unitEscape (n : Nat) : Text := '\\' :: 'u' :: Numeral.hexadecimal 4 n

/-- A character of a text in which only quotes, backslashes and control characters are escaped. A
surrogate, which could not be printed, is escaped as well. -/
def escapeControls : CodePoint → Text
  | .surrogate n => unitEscape (CodePoint.surrogate n).toNat
  | .char c => match letterEscape? c with
    | some letter => ['\\', letter]
    | none => if c.toNat < 0x20 then unitEscape c.toNat else [c]

/-- A character of a text that is written in printable ASCII. A character beyond the first 65536 is
written as two units. -/
def escapeAscii : CodePoint → Text
  | .surrogate n => unitEscape (CodePoint.surrogate n).toNat
  | .char c => match letterEscape? c with
    | some letter => ['\\', letter]
    | none =>
      let n := c.toNat
      if 0x20 ≤ n ∧ n < 0x7F then [c]
      else if n < 0x10000 then unitEscape n
      else
        unitEscape (0xD800 + (n - 0x10000) / 0x400) ++ unitEscape (0xDC00 + (n - 0x10000) % 0x400)

/-- One line of printable ASCII, for logs. -/
def Style.ascii : Style :=
  { escape := escapeAscii, comma := [',', ' '], colon := [':', ' '], newline := fun _ => [] }

/-- One line without blanks. -/
def Style.compact : Style :=
  { escape := escapeControls, comma := [','], colon := [':'], newline := fun _ => [] }

/-- One item a line, indented by two blanks for each bracket around it. -/
def Style.indented : Style :=
  { escape := escapeControls, comma := [','], colon := [':', ' ']
    newline := fun depth => '\n' :: List.replicate (2 * depth) ' ' }

def floatLayout : Decimal.Layout :=
  { Decimal.Layout.plain with nan := "NaN".toList, infinity := "Infinity".toList }

def writeText (style : Style) (text : WideText) : Text :=
  '"' :: (text.flatMap style.escape ++ ['"'])

/-- Written items between two brackets, which are at `depth`. -/
def enclose (style : Style) (depth : Nat) (opening closing : Char) : List Text → Text
  | [] => [opening, closing]
  | items =>
    let newline := style.newline (depth + 1)
    opening :: (newline ++ Text.joinWith (style.comma ++ newline) items ++
      style.newline depth ++ [closing])

mutual

/-- A value inside `depth` brackets. -/
def writeAt (style : Style) (depth : Nat) : Json → Text
  | .null => "null".toList
  | .bool true => "true".toList
  | .bool false => "false".toList
  | .int n => Numeral.decimal n
  | .float x => Decimal.write floatLayout x
  | .string s => writeText style s
  | .arr items => enclose style depth '[' ']' (writeItems style (depth + 1) items)
  | .obj members => enclose style depth '\x7b' '\x7d' (writeMembers style (depth + 1) members)

def writeItems (style : Style) (depth : Nat) : List Json → List Text
  | [] => []
  | item :: items => writeAt style depth item :: writeItems style depth items

def writeMembers (style : Style) (depth : Nat) : List (WideText × Json) → List Text
  | [] => []
  | (key, value) :: members =>
    (writeText style key ++ style.colon ++ writeAt style depth value) ::
      writeMembers style depth members

end

def write (style : Style) (value : Json) : Text := writeAt style 0 value

end PoolLogin.Json
