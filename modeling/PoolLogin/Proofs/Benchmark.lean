import Mathlib.Logic.Basic
import Mathlib.Tactic.SplitIfs
import PoolLogin.Benchmark
import PoolLogin.Proofs.Decimal.Nearest

/-! The shortest of several runs. A run that takes no time, or a negative
one, counts like any other, and whether a run came early or late does not
matter. -/

namespace PoolLogin.Benchmark

/-- The ticks at which runs start and stop. -/
def spans : (runs : Nat) → (ticks : List Int) → List (Int × Int)
  | runs + 1, start :: stop :: ticks => (start, stop) :: spans runs ticks
  | _, _ => []

/-- The times that runs take. -/
def times (runs : Nat) (ticks : List Int) : List Int :=
  (spans runs ticks).map fun span => span.2 - span.1

theorem times_succ (runs : Nat) (start stop : Int) (ticks : List Int) :
    times (runs + 1) (start :: stop :: ticks) = (stop - start) :: times runs ticks := rfl

/-- Every run takes two ticks of its own. -/
theorem getElem?_spans {runs : Nat} {ticks : List Int} (h : 2 * runs ≤ ticks.length) {n : Nat}
    (hn : n < runs) :
    (spans runs ticks)[n]? = some (ticks.getD (2 * n) 0, ticks.getD (2 * n + 1) 0) := by
  induction runs generalizing ticks n with
  | zero => omega
  | succ runs ih =>
      match ticks, h with
      | start :: stop :: ticks, h =>
          simp only [List.length_cons] at h
          cases n with
          | zero => rfl
          | succ n =>
              rw [spans, List.getElem?_cons_succ, ih (by omega) (by omega)]
              rfl

theorem length_spans {runs : Nat} {ticks : List Int} (h : 2 * runs ≤ ticks.length) :
    (spans runs ticks).length = runs := by
  induction runs generalizing ticks with
  | zero => rfl
  | succ runs ih =>
      match ticks, h with
      | start :: stop :: ticks, h =>
          simp only [List.length_cons] at h
          rw [spans, List.length_cons, ih (by omega)]

/-! ### The least time -/

/-- One run more: the shortest time is the new one or stays. -/
theorem shorter_some (best time : Int) : shorter (some best) time = some (min best time) := by
  rw [shorter, Int.min_def]
  congr 1
  split_ifs with hLess hLe <;> omega

/-- Any number of runs more: the shortest time is the minimum of theirs and the one before. -/
theorem shortest_some (runs : Nat) (best : Int) (ticks : List Int) :
    shortest runs (some best) ticks = some ((times runs ticks).foldl min best) := by
  induction runs generalizing best ticks with
  | zero => rfl
  | succ runs ih =>
      match ticks with
      | [] | [_] => rfl
      | start :: stop :: ticks =>
          rw [shortest, shorter_some, ih, times_succ, List.foldl_cons]

/-- Nothing is known before the first run, so its time counts whatever it is, and then the
shortest time is the minimum of all. -/
theorem shortest_none (runs : Nat) (ticks : List Int) :
    shortest runs none ticks = (times runs ticks).min? := by
  cases runs with
  | zero => rfl
  | succ runs =>
      match ticks with
      | [] | [_] => rfl
      | start :: stop :: ticks =>
          rw [shortest, shorter, shortest_some, times_succ, List.min?_cons']

/-! ### The report -/

/-- A report does without a shortest time of zero, which makes no difference
where zero stands for an absent one. -/
theorem getD_best (count : Int) (runs : Nat) (ticks : List Int) :
    (report count runs ticks).best.getD 0 = (shortest runs none ticks).getD 0 := by
  rw [report, Int.toNat_natCast]
  cases shortest runs none ticks with
  | none => rfl
  | some best => by_cases h : best = 0 <;> simp [Option.filter, h]

theorem best_ne_zero (count runs : Int) (ticks : List Int) :
    (report count runs ticks).best ≠ some 0 := by
  intro h
  have hNonzero := (Option.filter_eq_some_iff.mp h).2
  exact absurd hNonzero (by decide)

/-- The rate is zero where the best time is, and it is divided by no other than that time. -/
theorem rate_eq {report : Report} (h : report.best ≠ some 0) :
    report.rate = if report.best.getD 0 = 0 then .zero false
      else quotient report.names (report.best.getD 0) := by
  rw [Report.rate]
  cases hBest : report.best with
  | none => rfl
  | some best =>
      have hNonzero : best ≠ 0 := fun hZero => h (hBest.trans (congrArg some hZero))
      rw [Option.getD_some, if_neg hNonzero]

/-- The quotient is the floating-point number nearest to the exact one. -/
theorem isNearest_quotient (a : Int) {b : Int} (h : b ≠ 0) :
    Binary64.IsNearest ((a : ℚ) / b) (quotient a b) := by
  have hSign (n : Int) : (n : ℚ) = Binary64.signed (decide (n < 0)) n.natAbs := by
    rw [Nat.cast_natAbs, Binary64.signed]
    by_cases hNegative : n < 0
    · rw [decide_eq_true hNegative, if_pos rfl, abs_of_neg hNegative, Int.cast_neg, neg_neg]
    · rw [decide_eq_false hNegative, if_neg Bool.false_ne_true,
        abs_of_nonneg (not_lt.mp hNegative)]
  rw [hSign a, hSign b, Binary64.signed_div_signed]
  exact Binary64.isNearest_ofRatio _ _ (Int.natAbs_ne_zero.mpr h)

/-- With at least one run there is a least time, and it is the one reported. -/
theorem getD_best_least (count : Int) {runs : Nat} {ticks : List Int}
    (hTicks : 2 * runs ≤ ticks.length) (hRuns : 0 < runs) :
    (report count runs ticks).best.getD 0 ∈ times runs ticks ∧
      ∀ time ∈ times runs ticks, (report count runs ticks).best.getD 0 ≤ time := by
  have hNonempty : times runs ticks ≠ [] := by
    rw [← List.length_pos_iff, times, List.length_map, length_spans hTicks]
    exact hRuns
  obtain ⟨best, hBest⟩ := Option.isSome_iff_exists.mp (List.isSome_min?_iff.mpr hNonempty)
  rw [getD_best, shortest_none, hBest, Option.getD_some]
  exact List.min?_eq_some_iff.mp hBest

/-- In another order the runs have the same report. -/
theorem report_congr (count : Int) {runs : Nat} {ticks others : List Int}
    (h : (spans runs others).Perm (spans runs ticks)) :
    report count runs others = report count runs ticks := by
  have hTimes : (times runs others).Perm (times runs ticks) := h.map _
  have hBest : shortest runs none others = shortest runs none ticks := by
    ext best
    simp only [shortest_none, List.min?_eq_some_iff, hTimes.mem_iff]
  rw [report, report, Int.toNat_natCast, hBest]

/-- The best time that is reported is the least time of all runs, and zero if
there are none. The order of the runs does not matter, and neither do ticks
behind the last of them. Nothing is divided by zero: the number of names per
tick is zero where the best time is, and else the quotient by just that time,
rounded once to the nearest floating-point number. -/
theorem report_of_least_time (count : Int) {runs : Nat} {ticks : List Int}
    (hTicks : 2 * runs ≤ ticks.length) :
    let report := report count runs ticks
    let best := report.best.getD 0
    ((spans runs ticks).length = runs ∧ ∀ n < runs, (spans runs ticks)[n]? =
      some (ticks.getD (2 * n) 0, ticks.getD (2 * n + 1) 0)) ∧
    (runs = 0 → best = 0) ∧
    (0 < runs → best ∈ times runs ticks ∧ ∀ time ∈ times runs ticks, best ≤ time) ∧
    (∀ others : List Int, (spans runs others).Perm (spans runs ticks) →
      Benchmark.report count runs others = report) ∧
    report.names = count ∧ report.best ≠ some 0 ∧
    (report.rate = if runs = 0 ∨ best = 0 then .zero false else quotient count best) ∧
    (best ≠ 0 → Binary64.IsNearest ((count : ℚ) / best) report.rate) := by
  intro report best
  have hNone : runs = 0 → best = 0 := by
    rintro rfl
    exact getD_best count 0 ticks
  have hRate : report.rate = if best = 0 then .zero false else quotient count best :=
    rate_eq (best_ne_zero count runs ticks)
  refine ⟨⟨length_spans hTicks, fun n => getElem?_spans hTicks⟩, hNone,
    getD_best_least count hTicks, fun others => report_congr count, rfl,
    best_ne_zero count runs ticks, ?_, fun hNonzero => ?_⟩
  · rw [hRate]
    exact if_congr ⟨Or.inr, fun h => h.elim hNone id⟩ rfl rfl
  · rw [hRate, if_neg hNonzero]
    exact isNearest_quotient count hNonzero

/-- Three runs, the second of which goes back in time, and the same in another order. Five names
in minus three ticks are `-1.666…` names a tick, up to the last bit. -/
theorem report_of_clock_set_back :
    let ticks : List Int := [0, 4, 10, 7, 9, 9, 1]
    let report := report 5 3 ticks
    2 * 3 ≤ ticks.length ∧ report.best.getD 0 = -3 ∧
      (∀ time ∈ [4, -3, 0], report.best.getD 0 ≤ time) ∧
      Benchmark.report 5 3 [9, 9, 10, 7, 0, 4] = report ∧
      report.rate = .finite true 7505999378950827 (-52) ∧
      report.rateText = "-1.6666666666666667".toList ∧
      Binary64.IsNearest (-5 / 3) report.rate := by
  intro ticks report
  have hTicks : 2 * 3 ≤ ticks.length := by decide
  obtain ⟨-, -, hLeast, hOrder, -, -, -, hNearest⟩ := report_of_least_time 5 hTicks
  have hBest : report.best.getD 0 = -3 := by decide
  have hValue : report.rate = .finite true 7505999378950827 (-52) := by decide +kernel
  refine ⟨hTicks, hBest, (hLeast (by decide)).2, hOrder _ (by decide), hValue, ?_, ?_⟩
  · rw [Report.rateText, hValue]
    decide +kernel
  · have hThirds : ((5 : Int) : ℚ) / (report.best.getD 0 : Int) = -5 / 3 := by
      rw [hBest]
      norm_num
    rw [← hThirds]
    exact hNearest (by decide)

end PoolLogin.Benchmark
