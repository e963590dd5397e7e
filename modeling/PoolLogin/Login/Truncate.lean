import PoolLogin.Text.Lines
import PoolLogin.Text.Numeral
import PoolLogin.Text.Utf8

/-!
Limits to the length of a worker name. A name is cut to a number of bytes, and a character that the
limit cuts through is dropped. A limit is typed as a whole number with a sign and white space around
it, underscores between its digits, and a fraction if that is zero; leading zeros are set aside
first, with all underscores among them.
-/

namespace PoolLogin.Login

/-- The length to which a name is cut unless told otherwise, the longest that a pool accepts. -/
def defaultLimit : Int := 255

/-- The first `limit` bytes, or, if the limit is negative, all but the last `-limit`. -/
def cut (limit : Int) (name : Bytes) : Bytes :=
  if 0 ≤ limit then name.take limit.toNat else name.take (name.length - limit.natAbs)

/-- A name of at most `limit` bytes. A name that fits, and every name if the limit is zero, stays
as it is; a name that is cut loses what is not well-formed in it. -/
def truncateBytes (limit : Int) (name : Bytes) : Bytes :=
  if limit = 0 ∨ (name.length : Int) ≤ limit then name
  else Utf8.encode (Utf8.decodeLossy (cut limit name))

/-- A worker name cut to at most `limit` bytes. -/
def truncate (limit : Int) (name : Text) : Text :=
  let bytes := Utf8.encode name
  if limit = 0 ∨ (bytes.length : Int) ≤ limit then name
  else Utf8.decodeLossy (cut limit bytes)

end PoolLogin.Login

namespace PoolLogin.Command

/-! ### Limits as they are typed -/

/-- White space around a limit. Of the control characters only those of layout count. -/
def isLimitSpace (c : Char) : Bool := Text.isBlank c && !(28 ≤ c.toNat && c.toNat ≤ 31)

def isLeadingDigit (c : Char) : Bool := '1' ≤ c && c ≤ '9'

/-- The number without the zeros and underscores in front of it, `last` being the last of them. If
nothing but a fraction follows, or nothing at all, it stays. -/
def dropZerosAfter (last : Char) : Text → Option Text
  | [] => some [last]
  | c :: rest =>
    if c = '0' ∨ c = '_' then dropZerosAfter c rest
    else if isLeadingDigit c then some (c :: rest)
    else if c = '.' then some (last :: c :: rest)
    else none

/-- The number without its leading zeros. It must start with a digit. -/
def dropLeadingZeros : Text → Option Text
  | [] => none
  | c :: rest =>
    if c = '0' then dropZerosAfter c rest
    else if isLeadingDigit c then some (c :: rest)
    else none

def dropZeroFraction (text : Text) : Text :=
  match text.span (· != '.') with
  | (whole, _ :: fraction) => if !fraction.isEmpty && fraction.all (· == '0') then whole else text
  | _ => text

/-- The parts between underscores put together, unless one of them is empty. -/
def joinGroups? (text : Text) : Option Text :=
  let groups := Text.splitAt (· == '_') text
  if groups.any List.isEmpty then none else some groups.flatten

/-- The limit that a text gives. Its length is limited, a minus sign counting. -/
def limitOfText? (text : Text) : Option Int := do
  let (sign, number) := match Text.trim isLimitSpace text with
    | '-' :: rest => (['-'], rest)
    | '+' :: rest => ([], rest)
    | text => ([], text)
  let digits ← joinGroups? (dropZeroFraction (← dropLeadingZeros number))
  if digits.all (fun c => '0' ≤ c && c ≤ '9') && (sign ++ digits).length ≤ Numeral.maxDigits then
    let n : Int := Numeral.value 10 (digits.filterMap Numeral.asciiDigit?)
    return if sign.isEmpty then n else -n
  else none

end PoolLogin.Command
