import PoolLogin.Text.Numeral
import PoolLogin.Text.Printable

/-!
Quoted text as it stands in messages and in the failure table: one line of printable characters
between quotes, from which the text can be read off again.
-/

namespace PoolLogin.Text

/-- The escape of a character by its number, as short as it can be: `\xNN`, `\uNNNN` or
`\UNNNNNNNN`. -/
def numericEscape (n : Nat) : Text :=
  if n < 0x100 then '\\' :: 'x' :: Numeral.hexadecimal 2 n
  else if n < 0x10000 then '\\' :: 'u' :: Numeral.hexadecimal 4 n
  else '\\' :: 'U' :: Numeral.hexadecimal 8 n

def quoteChar (quote : Char) (c : Char) : Text :=
  if c = quote ∨ c = '\\' then ['\\', c]
  else if c = '\n' then ['\\', 'n']
  else if c = '\r' then ['\\', 'r']
  else if c = '\t' then ['\\', 't']
  else if isPrintable c then [c]
  else numericEscape c.toNat

/-- A code point between quotes `quote`. A surrogate is escaped. -/
def quoteCode (quote : Char) : CodePoint → Text
  | .char c => quoteChar quote c
  | .surrogate n => numericEscape (CodePoint.surrogate n).toNat

/-- The quote that stands around a text: a single one, unless the text holds single quotes and no
double ones. -/
def quoteFor (text : WideText) : Char :=
  if text.contains (.char '\x27') && !text.contains (.char '"') then '"' else '\x27'

/-- A text that may hold surrogates between quotes. -/
def quotedWide (text : WideText) : Text :=
  let quote := quoteFor text
  quote :: (text.flatMap (quoteCode quote) ++ [quote])

def quoted (text : Text) : Text := quotedWide (.ofText text)

/-- A byte between quotes `quote`. Bytes that are no graphic ASCII characters are escaped. -/
def quoteByte (quote : Char) (b : UInt8) : Text :=
  let n := b.toNat
  if n < 0x7F then quoteChar quote (Char.ofNat n) else numericEscape n

/-- Bytes between quotes, marked by a `b`. -/
def quotedBytes (bytes : Bytes) : Text :=
  let quote := quoteFor (bytes.map fun b => .char (Char.ofNat b.toNat))
  'b' :: quote :: (bytes.flatMap (quoteByte quote) ++ [quote])

/-- A text between quotes, or the word for an absent one. -/
def quotedOption : Option WideText → Text
  | none => "None".toList
  | some text => quotedWide text

end PoolLogin.Text
