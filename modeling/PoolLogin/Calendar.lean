import PoolLogin.Text.Numeral

/-!
Days and moments of the Gregorian calendar, as they stand in case files.
-/

namespace PoolLogin

/-- A day from the year 1 to the year 9999. -/
structure Date where
  year : Nat
  month : Nat
  day : Nat
  deriving DecidableEq, Repr

/-- A time of day on a date, with the seconds by which its clock is ahead of universal time if
they are known. -/
structure Moment where
  date : Date
  hour : Nat
  minute : Nat
  second : Nat
  microsecond : Nat
  offset : Option Int
  deriving DecidableEq, Repr

namespace Calendar

/-- Why numbers are no date or time. -/
inductive Fault where
  | year (n : Nat)
  | month
  | day
  | hour
  | minute
  | second
  /-- The clock would be a day or more away from universal time. -/
  | offset (seconds : Int)
  deriving DecidableEq, Repr

def secondsPerDay : Nat := 86400

def daysIn (year month : Nat) : Nat :=
  if month = 2 then
    if year % 4 = 0 ∧ (year % 100 ≠ 0 ∨ year % 400 = 0) then 29 else 28
  else if month = 4 ∨ month = 6 ∨ month = 9 ∨ month = 11 then 30
  else 31

def date (year month day : Nat) : Except Fault Date :=
  if year < 1 ∨ 9999 < year then .error (.year year)
  else if month < 1 ∨ 12 < month then .error .month
  else if day < 1 ∨ daysIn year month < day then .error .day
  else .ok { year, month, day }

/-- The moment of a time on a day. A clock's offset is checked first, then the date, then the
time. -/
def moment (year month day hour minute second microsecond : Nat) (offset : Option Int) :
    Except Fault Moment := do
  if let some seconds := offset then
    if secondsPerDay ≤ seconds.natAbs then throw (.offset seconds)
  let date ← date year month day
  if 23 < hour then throw .hour
  if 59 < minute then throw .minute
  if 59 < second then throw .second
  return { date, hour, minute, second, microsecond, offset }

/-- The days from the first day of the year 1 to a date. -/
def dayNumber (d : Date) : Nat :=
  let years := d.year - 1
  let months := (List.range (d.month - 1)).foldl (fun n m => n + daysIn d.year (m + 1)) 0
  years * 365 + years / 4 - years / 100 + years / 400 + months + (d.day - 1)

/-- The microseconds from the start of the year 1 to a moment, by its own clock. -/
def clockTime (m : Moment) : Nat :=
  (((dayNumber m.date * 24 + m.hour) * 60 + m.minute) * 60 + m.second) * 1000000 + m.microsecond

/-- Moments with known offsets are the same if they are at the same time, and moments without if
their clocks show the same. -/
def same (a b : Moment) : Bool :=
  match a.offset, b.offset with
  | none, none => clockTime a == clockTime b
  | some s, some t => (clockTime a : Int) - s * 1000000 == (clockTime b : Int) - t * 1000000
  | _, _ => false

/-- A number with at least two digits. -/
def twoDigits (n : Nat) : Text := Numeral.padZeros 2 (Numeral.natural n)

def dateText (d : Date) : Text :=
  Numeral.padZeros 4 (Numeral.natural d.year) ++ '-' :: twoDigits d.month ++ '-' :: twoDigits d.day

/-- A number of seconds as hours and minutes with a sign. -/
def offsetText (seconds : Int) : Text :=
  let minutes := seconds.natAbs / 60
  (if seconds < 0 then '-' else '+') :: twoDigits (minutes / 60) ++ ':' :: twoDigits (minutes % 60)

def momentText (m : Moment) : Text :=
  dateText m.date ++ ' ' :: twoDigits m.hour ++ ':' :: twoDigits m.minute ++
    ':' :: twoDigits m.second ++
    (if m.microsecond = 0 then []
      else '.' :: Numeral.padZeros 6 (Numeral.natural m.microsecond)) ++
    (m.offset.map offsetText).getD []

/-- Numbers between parentheses, after the word that says what they make up. -/
def applied (word : Text) (arguments : List Text) : Text :=
  word ++ '(' :: Text.joinWith [',', ' '] arguments ++ [')']

/-- A span of seconds as whole days and the seconds of the last day. -/
def spanText (seconds : Int) : Text :=
  let days := seconds.fdiv secondsPerDay
  let rest := seconds.fmod secondsPerDay
  let parts := (if days = 0 then [] else ["days=".toList ++ Numeral.decimal days]) ++
    (if rest = 0 then [] else ["seconds=".toList ++ Numeral.decimal rest])
  applied "datetime.timedelta".toList (if parts.isEmpty then [['0']] else parts)

/-- A date in the notation of quoted values. -/
def dateNotation (d : Date) : Text :=
  applied "datetime.date".toList [Numeral.natural d.year, Numeral.natural d.month,
    Numeral.natural d.day]

/-- A moment in the notation of quoted values. Seconds are left out if they are zero and no
fraction follows. -/
def momentNotation (m : Moment) : Text :=
  let fraction := if m.microsecond = 0 then [] else [m.microsecond]
  let seconds := if m.second = 0 ∧ fraction.isEmpty then [] else [m.second]
  let zone := match m.offset with
    | none => []
    | some 0 => ["tzinfo=datetime.timezone.utc".toList]
    | some s => ["tzinfo=".toList ++ applied "datetime.timezone".toList [spanText s]]
  applied "datetime.datetime".toList <|
    ([m.date.year, m.date.month, m.date.day, m.hour, m.minute] ++ seconds ++ fraction).map
      Numeral.natural ++ zone

def Fault.message : Fault → Text
  | year n => "year ".toList ++ Numeral.natural n ++ " is out of range".toList
  | month => "month must be in 1..12".toList
  | day => "day is out of range for month".toList
  | hour => "hour must be in 0..23".toList
  | minute => "minute must be in 0..59".toList
  | second => "second must be in 0..59".toList
  | offset seconds =>
    "offset must be a timedelta strictly between -timedelta(hours=24) and ".toList ++
      "timedelta(hours=24), not ".toList ++ spanText seconds ++ ['.']

end Calendar

end PoolLogin
