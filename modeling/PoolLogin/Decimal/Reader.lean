import PoolLogin.Decimal.Binary
import PoolLogin.Text.Numeral

/-!
Numbers in decimal notation as the nearest binary numbers.
-/

namespace PoolLogin.Decimal

def isDigit (c : Char) : Bool := '0' ≤ c && c ≤ '9'

def digitsValue (digits : Text) : Nat := Numeral.value 10 (digits.filterMap Numeral.asciiDigit?)

/-- An exponent that makes up a whole text. -/
def exponent? : Text → Option Int
  | [] => some 0
  | e :: rest =>
    let (negative, digits) := Numeral.splitSign rest
    if (e = 'e' ∨ e = 'E') ∧ !digits.isEmpty ∧ digits.all isDigit then
      let n : Int := digitsValue digits
      some (if negative then -n else n)
    else none

/-- Read a number: digits with a point among them, or a word for what is no finite number, and
white space around. Digits of every script count. -/
def read? (text : WideText) : Option Binary64 :=
  let (negative, body) := Numeral.splitSign (Text.trim Numeral.isSpace (text.map Numeral.latin))
  let word := Text.lowercase body
  if word = "nan".toList then some .nan
  else if word = "inf".toList ∨ word = "infinity".toList then some (.infinite negative)
  else
    let (whole, rest) := body.span isDigit
    let (places, rest) := match rest with
      | '.' :: rest => rest.span isDigit
      | _ => ([], rest)
    if whole.isEmpty && places.isEmpty then none
    else (exponent? rest).map fun exponent =>
      .ofDecimal negative (digitsValue (whole ++ places)) (exponent - places.length)

end PoolLogin.Decimal
