import PoolLogin.Decimal.Shortest

/-!
The report of a benchmark: the shortest of several runs, and how many names a second it makes.
-/

namespace PoolLogin.Benchmark

/-- The time of the shortest run so far, after one more. -/
def shorter (best : Option Int) (time : Int) : Option Int :=
  match best with
  | none => some time
  | some best => some (if time < best then time else best)

/-- The time of the shortest run, `best` being that of the runs before. Every run looks at the clock
at its start and at its end. -/
def shortest : (runs : Nat) → (best : Option Int) → (ticks : List Int) → Option Int
  | runs + 1, best, start :: stop :: ticks => shortest runs (shorter best (stop - start)) ticks
  | _, best, _ => best

/-- The quotient of two whole numbers as a floating-point number. -/
def quotient (a b : Int) : Binary64 := .ofRatio (decide (a < 0) != decide (b < 0)) a.natAbs b.natAbs

/-- What a benchmark reports. -/
structure Report where
  names : Int
  /-- The ticks of the shortest run, unless there was none or it took no time. -/
  best : Option Int
  deriving DecidableEq, Repr

/-- The report of `runs` runs over `count` names. -/
def report (count runs : Int) (ticks : List Int) : Report :=
  { names := count, best := (shortest runs.toNat none ticks).filter (· != 0) }

namespace Report

/-- The number of names per tick of the shortest run. -/
def rate (report : Report) : Binary64 :=
  match report.best with
  | none => .zero false
  | some best => quotient report.names best

def namesText (report : Report) : Text := Numeral.decimal report.names

/-- The time of the shortest run as text. -/
def bestText (report : Report) : Text :=
  match report.best with
  | none => Decimal.write .plain (.zero false)
  | some best => Numeral.decimal best

def rateText (report : Report) : Text := Decimal.write .plain report.rate

end Report

end PoolLogin.Benchmark
