import PoolLogin.Datum.Basic
import PoolLogin.Decimal.Shortest
import PoolLogin.Text.Quoted

/-!
Values of case files as text: the plain text that a worker name or an expected part is taken to
be, and the notation of messages, in which texts are quoted and lists and maps bracketed.
-/

namespace PoolLogin.Datum

mutual

def display : Datum → Text
  | .null => "None".toList
  | .bool true => "True".toList
  | .bool false => "False".toList
  | .int n => Numeral.decimal n
  | .float x => Decimal.write .plain x
  | .string s => Text.quotedWide s
  | .bytes b => Text.quotedBytes b
  | .date d => Calendar.dateNotation d
  | .moment m => Calendar.momentNotation m
  | .list items => '[' :: Text.joinWith [',', ' '] (displayItems items) ++ [']']
  | .pair first second => '(' :: (display first ++ ',' :: ' ' :: display second ++ [')'])
  | .map entries => '\x7b' :: Text.joinWith [',', ' '] (displayEntries entries) ++ ['\x7d']
  | .set [] => "set()".toList
  | .set items => '\x7b' :: Text.joinWith [',', ' '] (displayItems items) ++ ['\x7d']
  | .inner .list => "[...]".toList
  | .inner .pair => "(...)".toList
  | .inner .map => '\x7b' :: '.' :: '.' :: '.' :: ['\x7d']

def displayItems : List Datum → List Text
  | [] => []
  | item :: items => display item :: displayItems items

def displayEntries : List (Datum × Datum) → List Text
  | [] => []
  | (key, value) :: entries =>
    (display key ++ ':' :: ' ' :: display value) :: displayEntries entries

end

def plain : Datum → WideText
  | .string s => s
  | .date d => .ofText (Calendar.dateText d)
  | .moment m => .ofText (Calendar.momentText m)
  | datum => .ofText (display datum)

mutual

/-- Whether a whole number in the value has too many digits to be written. -/
def hasLongNumber : Datum → Bool
  | .int n => decide (Nat.pow 10 Numeral.maxDigits ≤ n.natAbs)
  | .list items => anyLongNumber items
  | .pair first second => hasLongNumber first || hasLongNumber second
  | .map entries => anyLongEntry entries
  | .set items => anyLongNumber items
  | _ => false

/-- Whether one of the items has such a number. -/
def anyLongNumber : List Datum → Bool
  | [] => false
  | item :: items => hasLongNumber item || anyLongNumber items

/-- Whether one of the entries has such a number. -/
def anyLongEntry : List (Datum × Datum) → Bool
  | [] => false
  | (key, value) :: entries => hasLongNumber key || hasLongNumber value || anyLongEntry entries

end

mutual

/-- How many collections lie in one another at most. -/
def depth : Datum → Nat
  | .list items => depthOfItems items + 1
  | .pair first second => max (depth first) (depth second) + 1
  | .map entries => depthOfEntries entries + 1
  | .set items => depthOfItems items + 1
  | _ => 0

/-- The depth of the deepest of the items. -/
def depthOfItems : List Datum → Nat
  | [] => 0
  | item :: items => max (depth item) (depthOfItems items)

/-- The depth of the deepest of the entries. -/
def depthOfEntries : List (Datum × Datum) → Nat
  | [] => 0
  | (key, value) :: entries => max (max (depth key) (depth value)) (depthOfEntries entries)

end

/-- The most collections in one another that are written. Writing goes down a level with each of
them; of the thousand levels that there are, whoever has a value written stands on the first
twelve. -/
def maxDepth : Nat := 988

/-- Why a value cannot be written. -/
inductive Unwritable where
  /-- A whole number in it is too long. -/
  | longNumber
  | tooDeep
  deriving DecidableEq, Repr

/-- Why a value cannot be written, unless it can. -/
def unwritable? (datum : Datum) : Option Unwritable :=
  if maxDepth < datum.depth then some .tooDeep
  else if datum.hasLongNumber then some .longNumber
  else none

/-- The words for why a value cannot be written. -/
def Unwritable.message : Unwritable → Text
  | longNumber =>
    ("Exceeds the limit (4300 digits) for integer string conversion; " ++
      "use sys.set_int_max_str_digits() to increase the limit").toList
  | tooDeep => "maximum recursion depth exceeded while getting the repr of an object".toList

end PoolLogin.Datum
