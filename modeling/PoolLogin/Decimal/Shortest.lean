import PoolLogin.Decimal.Binary
import PoolLogin.Text.Numeral

/-!
The shortest decimal that reads back as a given binary number: of all decimals that round to it,
those with the fewest digits, and of these the nearest. `Layout` says how the digits are set out.
-/

namespace PoolLogin.Decimal

/-- A positive decimal: `0.d₁d₂… * 10 ^ point`, where `d₁d₂…` are the digits. -/
structure Digits where
  digits : Text
  point : Int
  deriving DecidableEq, Repr

/-- The numerator of `n * 10 ^ s` over a fixed denominator, and that of `num / den`, as natural
numbers over one common denominator. -/
def overPower (num den : Nat) (s : Int) : Nat × Nat :=
  if 0 ≤ s then (num, den * Nat.pow 10 s.toNat) else (num * Nat.pow 10 (-s).toNat, den)

/-- Whether `num / den` lies below `10 ^ k`. -/
def belowPower (num den : Nat) (k : Int) : Bool :=
  let (n, d) := overPower num den k
  n < d

/-- The least `k` with `num / den < 10 ^ k`, the binary logarithm of the quotient being at least
`log` and less than `log + 1`. -/
def decimalPoint (num den : Nat) (log : Int) : Int :=
  let base := log * 30103 / 100000
  if belowPower num den base then base
  else if belowPower num den (base + 1) then base + 1
  else base + 2

/-- The point of the grid of multiples of `10 ^ s` that is nearest to `num / den` among those
strictly between `low / den` and `high / den`, or on these ends if `closed`. -/
def onGrid (low num high den : Nat) (closed : Bool) (s : Int) : Option Nat :=
  let (n, unit) := overPower num den s
  let (lo, _) := overPower low den s
  let (hi, _) := overPower high den s
  let inside := fun c => if closed then lo ≤ c * unit && c * unit ≤ hi
    else lo < c * unit && c * unit < hi
  let below := n / unit
  match inside below, inside (below + 1) with
  | true, true =>
    let twice := 2 * (n % unit)
    if twice < unit then some below
    else if unit < twice then some (below + 1)
    else some (below + below % 2)
  | true, false => some below
  | false, true => some (below + 1)
  | false, false => none

/-- The first hit on the grids of `count`, `count + 1`, … digits, `fuel` of them. -/
def firstHit (low num high den : Nat) (closed : Bool) (point : Int) :
    (fuel count : Nat) → Option (Nat × Int)
  | 0, _ => none
  | fuel + 1, count =>
    let s := point - count
    match onGrid low num high den closed s with
    | some c => some (c, s)
    | none => firstHit low num high den closed point fuel (count + 1)

/-- The digits of a positive number `m * 2 ^ e`. Seventeen digits always suffice. -/
def shortest (m : Nat) (e : Int) : Digits :=
  let up := if 0 ≤ e then Nat.pow 2 e.toNat else 1
  let den := if 0 ≤ e then 4 else 4 * Nat.pow 2 (-e).toNat
  let below := if m = Binary64.significandBound / 2 ∧ Binary64.leastExponent < e then 1 else 2
  let num := 4 * m * up
  let low := (4 * m - below) * up
  let high := (4 * m + 2) * up
  let point := decimalPoint num den ((m.log2 : Int) + e)
  match firstHit low num high den (m % 2 = 0) point 17 1 with
  | some (c, s) =>
    let digits := Numeral.natural c
    let point := (digits.length : Int) + s
    ⟨(digits.reverse.dropWhile (· == '0')).reverse, point⟩
  | none => ⟨Numeral.natural num, point⟩

/-- How a number is set out: the exponents of the leading digit for which it is written without an
exponent, the least number of digits of an exponent, and the words for what is no number. -/
structure Layout where
  leastPositional : Int
  mostPositional : Int
  exponentDigits : Nat
  nan : Text
  infinity : Text
  deriving DecidableEq, Repr

/-- The layout of numbers in messages and reports. -/
def Layout.plain : Layout :=
  { leastPositional := -4, mostPositional := 15, exponentDigits := 2
    nan := "nan".toList, infinity := "inf".toList }

/-- The digits without an exponent, with at least one digit on each side of the point. -/
def positional (d : Digits) : Text :=
  if d.point ≤ 0 then '0' :: '.' :: (List.replicate (-d.point).toNat '0' ++ d.digits)
  else
    let whole := d.point.toNat
    if d.digits.length ≤ whole then
      d.digits ++ List.replicate (whole - d.digits.length) '0' ++ ['.', '0']
    else d.digits.take whole ++ '.' :: d.digits.drop whole

/-- The digits with one of them before the point, and an exponent with its sign. -/
def scientific (exponentDigits : Nat) (d : Digits) : Text :=
  let exponent := d.point - 1
  let mantissa := match d.digits with
    | [] => []
    | [c] => [c]
    | c :: rest => c :: '.' :: rest
  mantissa ++ 'e' :: (if exponent < 0 then '-' else '+') ::
    Numeral.padZeros exponentDigits (Numeral.natural exponent.natAbs)

/-- A number in a given layout, with the fewest digits that read back. -/
def write (layout : Layout) : Binary64 → Text
  | .nan => layout.nan
  | .infinite negative => signed negative layout.infinity
  | .finite negative m e =>
    if m = 0 then signed negative ['0', '.', '0']
    else
      let d := shortest m e
      let exponent := d.point - 1
      signed negative <|
        if layout.leastPositional ≤ exponent ∧ exponent ≤ layout.mostPositional then positional d
        else scientific layout.exponentDigits d
where
  /-- A minus sign in front of a negative number. -/
  signed (negative : Bool) (text : Text) : Text := if negative then '-' :: text else text

end PoolLogin.Decimal
