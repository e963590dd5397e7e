import Mathlib.Algebra.Order.Field.Power
import Mathlib.Algebra.Order.Round
import Mathlib.Tactic.FieldSimp
import Mathlib.Tactic.Linarith
import Mathlib.Tactic.NormNum
import Mathlib.Tactic.Ring
import PoolLogin.Decimal.Binary

/-! Quotients as binary numbers. The exponent is chosen so that the significand has all
its bits, and then the nearest whole number of units is the nearest of all numbers:
those with a smaller unit that are no multiples of this one lie further below. -/

namespace PoolLogin

theorem div_eq_add_mod_div (num : Nat) {den : Nat} (hDen : 0 < den) :
    (num : ℚ) / den = (num / den : Nat) + (num % den : Nat) / den := by
  have hNum : (num : ℚ) = den * (num / den : Nat) + (num % den : Nat) := by
    exact_mod_cast (Nat.div_add_mod num den).symm
  have hDenQ : (den : ℚ) ≠ 0 := by exact_mod_cast hDen.ne'
  rw [← mul_div_cancel_left₀ (((num / den : Nat) : ℚ)) hDenQ, ← add_div, ← hNum]

/-- A quotient is rounded by half a unit at most, and by just that only to an even number. -/
theorem roundQuotient_spec (num : Nat) {den : Nat} (hDen : 0 < den) :
    |(roundQuotient num den : ℚ) - num / den| ≤ 1 / 2 ∧
      (|(roundQuotient num den : ℚ) - num / den| = 1 / 2 → roundQuotient num den % 2 = 0) := by
  have hDenQ : (0 : ℚ) < den := by exact_mod_cast hDen
  have hBelow : ((num % den : Nat) : ℚ) / den < 1 / 2 ↔ 2 * (num % den) < den := by
    rw [div_lt_div_iff₀ hDenQ two_pos, one_mul, mul_comm]
    exact_mod_cast Iff.rfl
  have hAbove : 1 / 2 < ((num % den : Nat) : ℚ) / den ↔ den < 2 * (num % den) := by
    rw [div_lt_div_iff₀ two_pos hDenQ, one_mul, mul_comm]
    exact_mod_cast Iff.rfl
  have hNonneg : 0 ≤ ((num % den : Nat) : ℚ) / den := by positivity
  have hLess : ((num % den : Nat) : ℚ) / den < 1 := by
    rw [div_lt_one hDenQ]
    exact_mod_cast Nat.mod_lt num hDen
  rw [div_eq_add_mod_div num hDen]
  simp only [roundQuotient]
  split_ifs with hDown hUp
  · replace hDown := hBelow.mpr hDown
    rw [sub_add_cancel_left, abs_neg, abs_of_nonneg hNonneg]
    exact ⟨hDown.le, fun hTie => absurd hTie hDown.ne⟩
  · replace hUp := hAbove.mpr hUp
    rw [Nat.cast_add, Nat.cast_one, add_sub_add_left_eq_sub, abs_of_pos (sub_pos.mpr hLess)]
    exact ⟨by linarith, fun hTie => by linarith⟩
  · have hHalf : ((num % den : Nat) : ℚ) / den = 1 / 2 :=
      le_antisymm (not_lt.mp (mt hAbove.mp hUp)) (not_lt.mp (mt hBelow.mp hDown))
    refine ⟨?_, fun _ => by omega⟩
    rw [hHalf, Nat.cast_add, add_sub_add_left_eq_sub]
    rcases Nat.mod_two_eq_zero_or_one (num / den) with hEven | hOdd
    · rw [hEven]
      norm_num
    · rw [hOdd]
      norm_num

/-- No other whole number is nearer than one that is no further than half a unit away. -/
theorem half_le_abs_sub {n k : ℤ} {x : ℚ} (h : |(n : ℚ) - x| ≤ 1 / 2) (hOther : k ≠ n) :
    1 / 2 ≤ |(k : ℚ) - x| := by
  have hApart : (1 : ℚ) ≤ |(k : ℚ) - n| := by
    exact_mod_cast Int.one_le_abs (sub_ne_zero.mpr hOther)
  have hTriangle := abs_sub_le (k : ℚ) x n
  rw [abs_sub_comm x] at hTriangle
  linarith

namespace Binary64

/-! ### Units -/

/-- Scaling a quotient divides it by a power of two. -/
theorem scaled_div (num : Nat) {den : Nat} (hDen : 0 < den) (exponent : ℤ) :
    0 < (scaled num den exponent).2 ∧
      ((scaled num den exponent).1 : ℚ) / (scaled num den exponent).2 =
        num / den / 2 ^ exponent := by
  rw [scaled]
  split_ifs with hSign
  · obtain ⟨n, rfl⟩ := Int.eq_ofNat_of_zero_le hSign
    refine ⟨Nat.mul_pos hDen (Nat.pow_pos two_pos), ?_⟩
    simp [div_div]
  · obtain ⟨n, hn⟩ := Int.eq_ofNat_of_zero_le (show 0 ≤ -exponent by omega)
    obtain rfl : exponent = -(n : ℤ) := by omega
    refine ⟨hDen, ?_⟩
    simp [div_eq_mul_inv, mul_right_comm]

/-- A quotient lies within a factor of two of the quotient of the leading bits. -/
theorem log2_div_bounds {num den : Nat} (hNum : num ≠ 0) (hDen : den ≠ 0) :
    (2 : ℚ) ^ ((num.log2 : ℤ) - den.log2 - 1) < num / den ∧
      (num / den : ℚ) < 2 ^ ((num.log2 : ℤ) - den.log2 + 1) := by
  have hDenQ : (0 : ℚ) < den := by exact_mod_cast Nat.pos_of_ne_zero hDen
  have hNumLow : (2 : ℚ) ^ (num.log2 : ℤ) ≤ num := by exact_mod_cast Nat.log2_self_le hNum
  have hNumHigh : (num : ℚ) < 2 ^ ((num.log2 : ℤ) + 1) := by
    exact_mod_cast (Nat.lt_log2_self : num < 2 ^ (num.log2 + 1))
  have hDenLow : (2 : ℚ) ^ (den.log2 : ℤ) ≤ den := by exact_mod_cast Nat.log2_self_le hDen
  have hDenHigh : (den : ℚ) < 2 ^ ((den.log2 : ℤ) + 1) := by
    exact_mod_cast (Nat.lt_log2_self : den < 2 ^ (den.log2 + 1))
  constructor
  · rw [lt_div_iff₀ hDenQ]
    calc (2 : ℚ) ^ ((num.log2 : ℤ) - den.log2 - 1) * den
        < 2 ^ ((num.log2 : ℤ) - den.log2 - 1) * 2 ^ ((den.log2 : ℤ) + 1) := by gcongr
      _ = 2 ^ (num.log2 : ℤ) := by rw [← zpow_add₀ two_ne_zero]; congr 1; ring
      _ ≤ num := hNumLow
  · rw [div_lt_iff₀ hDenQ]
    calc (num : ℚ) < 2 ^ ((num.log2 : ℤ) + 1) := hNumHigh
      _ = 2 ^ ((num.log2 : ℤ) - den.log2 + 1) * 2 ^ (den.log2 : ℤ) := by
        rw [← zpow_add₀ two_ne_zero]; congr 1; ring
      _ ≤ 2 ^ ((num.log2 : ℤ) - den.log2 + 1) * den := by gcongr

/-- The floor of a scaled quotient tells whether the quotient reaches a whole number of units. -/
theorem scaled_div_lt (num : Nat) {den : Nat} (hDen : 0 < den) (exponent : ℤ) (bound : Nat) :
    (scaled num den exponent).1 / (scaled num den exponent).2 < bound ↔
      (num / den / 2 ^ exponent : ℚ) < bound := by
  obtain ⟨hPos, hScaled⟩ := scaled_div num hDen exponent
  have hPosQ : (0 : ℚ) < (scaled num den exponent).2 := by exact_mod_cast hPos
  rw [← hScaled, Nat.div_lt_iff_lt_mul hPos, div_lt_iff₀ hPosQ]
  exact_mod_cast Iff.rfl

/-- In units of the exponent that is chosen a quotient has no more than 53 bits before the
point, and no fewer unless the exponent is the least one. -/
theorem exponentOf_spec {num den : Nat} (hNum : num ≠ 0) (hDen : den ≠ 0) :
    leastExponent ≤ exponentOf num den ∧
      (num / den / 2 ^ exponentOf num den : ℚ) < 2 ^ 53 ∧
      (exponentOf num den = leastExponent ∨
        (2 : ℚ) ^ 52 ≤ num / den / 2 ^ exponentOf num den) := by
  obtain ⟨hLow, hHigh⟩ := log2_div_bounds hNum hDen
  set guess : ℤ := (num.log2 : ℤ) - den.log2 - 52 with hGuess
  -- the exponent before the least one is imposed
  obtain ⟨exponent, hExponent, hBelow, hAbove⟩ : ∃ exponent : ℤ,
      exponentOf num den = max exponent leastExponent ∧
        (num / den : ℚ) < 2 ^ 53 * 2 ^ exponent ∧ (2 : ℚ) ^ 52 * 2 ^ exponent ≤ num / den := by
    have hUnit : (0 : ℚ) < 2 ^ guess := by positivity
    have hSplit := scaled_div_lt num (Nat.pos_of_ne_zero hDen) guess (significandBound / 2)
    have hHalf : ((significandBound / 2 : Nat) : ℚ) = 2 ^ 52 := by norm_num [significandBound]
    rw [hHalf, div_lt_iff₀ hUnit] at hSplit
    by_cases hSmall : (num / den : ℚ) < 2 ^ 52 * 2 ^ guess
    · refine ⟨guess - 1, ?_, ?_, ?_⟩
      · simp only [exponentOf, ← hGuess]
        rw [if_pos (hSplit.mpr hSmall)]
      · rw [zpow_sub_one₀ two_ne_zero]
        linarith
      · have hStep : (2 : ℚ) ^ 52 * 2 ^ (guess - 1) = 2 ^ ((num.log2 : ℤ) - den.log2 - 1) := by
          rw [← zpow_natCast, ← zpow_add₀ two_ne_zero]
          congr 1
          push_cast
          omega
        rw [hStep]
        exact hLow.le
    · refine ⟨guess, ?_, ?_, not_lt.mp hSmall⟩
      · simp only [exponentOf, ← hGuess]
        rw [if_neg (mt hSplit.mp hSmall)]
      · have hStep : (2 : ℚ) ^ 53 * 2 ^ guess = 2 ^ ((num.log2 : ℤ) - den.log2 + 1) := by
          rw [← zpow_natCast, ← zpow_add₀ two_ne_zero]
          congr 1
          push_cast
          omega
        rw [hStep]
        exact hHigh
  rw [hExponent]
  refine ⟨le_max_right _ _, ?_, ?_⟩
  · rw [div_lt_iff₀ (by positivity)]
    refine hBelow.trans_le ?_
    gcongr
    · norm_num
    · exact le_max_left _ _
  · rcases le_total leastExponent exponent with hLeast | hLeast
    · rw [max_eq_left hLeast, le_div_iff₀ (by positivity)]
      exact Or.inr hAbove
    · exact Or.inl (max_eq_right hLeast)

/-! ### The nearest number -/

/-- The significand and the exponent of a finite number. Apart from the least exponent the
significand has all its bits, so each number but zero has one form only. -/
structure InFormat (significand : Nat) (exponent : ℤ) : Prop where
  below : significand < 2 ^ 53
  least : leastExponent ≤ exponent
  greatest : exponent ≤ greatestExponent
  full : exponent = leastExponent ∨ 2 ^ 52 ≤ significand

/-- A magnitude with a sign. -/
def signed (negative : Bool) (x : ℚ) : ℚ := if negative then -x else x

/-- What a finite number stands for. -/
def value (negative : Bool) (significand : Nat) (exponent : ℤ) : ℚ :=
  signed negative (significand * 2 ^ exponent)

/-- Halfway between the greatest finite number and the next one that there would be. -/
def overflow : ℚ := (2 ^ 53 - 1 / 2) * 2 ^ greatestExponent

/-- The number of the format nearest to `x`: no finite number is nearer, and of two that are
equally near it is the one with the even significand. From halfway beyond the greatest
finite number it is infinite. -/
def IsNearest (x : ℚ) : Binary64 → Prop
  | .nan => False
  | .infinite negative => overflow ≤ signed negative x
  | .finite negative significand exponent =>
    InFormat significand exponent ∧ |x| < overflow ∧ 0 ≤ signed negative x ∧
      ∀ other k f, InFormat k f →
        |value negative significand exponent - x| ≤ |value other k f - x| ∧
          (|value negative significand exponent - x| = |value other k f - x| →
            value other k f = value negative significand exponent ∨ significand % 2 = 0)

@[simp] theorem abs_signed (negative : Bool) (x : ℚ) : |signed negative x| = |x| := by
  cases negative <;> simp [signed]

@[simp] theorem signed_signed (negative : Bool) (x : ℚ) :
    signed negative (signed negative x) = x := by
  cases negative <;> simp [signed]

theorem signed_sub (negative : Bool) (x y : ℚ) :
    signed negative x - signed negative y = signed negative (x - y) := by
  cases negative
  · rfl
  · exact (neg_sub_neg x y).trans (neg_sub x y).symm

theorem signed_div_signed (negative other : Bool) (x y : ℚ) :
    signed negative x / signed other y = signed (negative != other) (x / y) := by
  cases negative <;> cases other <;> simp [signed, neg_div, div_neg]

theorem signed_value (negative other : Bool) (k : Nat) (f : ℤ) :
    signed negative (value other k f) = value (negative != other) k f := by
  cases negative <;> cases other <;> simp [signed, value]

/-- A number with this unit or a greater one is a whole number of units. -/
theorem value_eq_mul {e f : ℤ} (h : e ≤ f) (other : Bool) (k : Nat) :
    ∃ j : ℤ, value other k f = j * 2 ^ e := by
  obtain ⟨n, rfl⟩ : ∃ n : Nat, f = e + n := ⟨(f - e).toNat, by omega⟩
  refine ⟨if other then -(k * 2 ^ n : Nat) else (k * 2 ^ n : Nat), ?_⟩
  rw [value, zpow_add₀ two_ne_zero, zpow_natCast]
  cases other <;> simp only [signed, if_true, if_false, Bool.false_eq_true] <;> push_cast <;> ring

/-- A number with a smaller unit stays below all significands that have their bits. -/
theorem value_lt_of_lt {e f : ℤ} (h : f < e) (other : Bool) {k : Nat} (hBelow : k < 2 ^ 53) :
    value other k f < 2 ^ 52 * 2 ^ e := by
  have hMagnitude : (k : ℚ) * 2 ^ f < 2 ^ 52 * 2 ^ e :=
    calc (k : ℚ) * 2 ^ f < 2 ^ 53 * 2 ^ f := by
          gcongr
          exact_mod_cast hBelow
      _ = 2 ^ 52 * 2 ^ (f + 1) := by rw [zpow_add_one₀ two_ne_zero]; ring
      _ ≤ 2 ^ 52 * 2 ^ e := by
          gcongr
          · norm_num
          · exact h
  have hNonneg : (0 : ℚ) ≤ k * 2 ^ f := by positivity
  cases other
  · exact hMagnitude
  · exact lt_of_le_of_lt (neg_nonpos.mpr hNonneg) (hNonneg.trans_lt hMagnitude)

/-- Units in which a magnitude has as many bits before the point as a significand holds, and
the whole number of them that is nearest to it. -/
structure RoundsTo (x : ℚ) (significand : Nat) (exponent : ℤ) : Prop where
  least : leastExponent ≤ exponent
  below : x / 2 ^ exponent < 2 ^ 53
  full : exponent = leastExponent ∨ 2 ^ 52 ≤ x / 2 ^ exponent
  near : |significand - x / 2 ^ exponent| ≤ 1 / 2
  even : |significand - x / 2 ^ exponent| = 1 / 2 → significand % 2 = 0

theorem roundsTo_roundQuotient {num den : Nat} (hNum : num ≠ 0) (hDen : den ≠ 0) :
    RoundsTo (num / den) (roundQuotient (scaled num den (exponentOf num den)).1
      (scaled num den (exponentOf num den)).2) (exponentOf num den) := by
  obtain ⟨hLeast, hBelow, hFull⟩ := exponentOf_spec hNum hDen
  obtain ⟨hPos, hScaled⟩ := scaled_div num (Nat.pos_of_ne_zero hDen) (exponentOf num den)
  obtain ⟨hNear, hEven⟩ := roundQuotient_spec (scaled num den (exponentOf num den)).1 hPos
  rw [hScaled] at hNear hEven
  exact ⟨hLeast, hBelow, hFull, hNear, hEven⟩

section

variable {x : ℚ} {m : Nat} {e : ℤ} (h : RoundsTo x m e)

include h

/-- The nearest whole number of units is the nearest number of all. -/
theorem RoundsTo.nearest (other : Bool) {k : Nat} {f : ℤ} (hFormat : InFormat k f) :
    |m * 2 ^ e - x| ≤ |value other k f - x| ∧
      (|m * 2 ^ e - x| = |value other k f - x| →
        value other k f = m * 2 ^ e ∨ m % 2 = 0) := by
  have hUnit : (0 : ℚ) < 2 ^ e := by positivity
  -- distances in units
  have hDistance (y : ℚ) : |y * 2 ^ e - x| = |y - x / 2 ^ e| * 2 ^ e := by
    rw [← abs_of_pos hUnit, ← abs_mul, abs_of_pos hUnit, sub_mul, div_mul_cancel₀ x hUnit.ne']
  rcases le_or_gt e f with hGreater | hSmaller
  · obtain ⟨j, hj⟩ := value_eq_mul hGreater other k
    rw [hj, hDistance, hDistance]
    by_cases hSame : j = m
    · rw [hSame, Int.cast_natCast]
      exact ⟨le_rfl, fun _ => Or.inl rfl⟩
    · have hFar : 1 / 2 ≤ |(j : ℚ) - x / 2 ^ e| :=
        half_le_abs_sub (by rw [Int.cast_natCast]; exact h.near) hSame
      refine ⟨mul_le_mul_of_nonneg_right (h.near.trans hFar) hUnit.le,
        fun hTie => Or.inr (h.even ?_)⟩
      exact le_antisymm h.near (hFar.trans_eq (mul_right_cancel₀ hUnit.ne' hTie).symm)
  · have hReach : (2 : ℚ) ^ 52 ≤ x / 2 ^ e :=
      h.full.resolve_left fun hLeast => absurd (hLeast ▸ hFormat.least) (not_le.mpr hSmaller)
    have hBelow := value_lt_of_lt hSmaller other hFormat.below
    have hNearer : |(m : ℚ) - x / 2 ^ e| ≤ |2 ^ 52 - x / 2 ^ e| := by
      by_cases hLeast : m = 2 ^ 52
      · rw [hLeast]
        norm_num
      · have hFar : 1 / 2 ≤ |((2 ^ 52 : ℤ) : ℚ) - x / 2 ^ e| :=
          half_le_abs_sub (n := m) (by rw [Int.cast_natCast]; exact h.near)
            (by exact_mod_cast Ne.symm hLeast)
        push_cast at hFar
        exact h.near.trans hFar
    have hStrict : |m * 2 ^ e - x| < |value other k f - x| := by
      rw [hDistance]
      refine (mul_le_mul_of_nonneg_right hNearer hUnit.le).trans_lt ?_
      rw [← hDistance]
      have hLeft : (2 : ℚ) ^ 52 * 2 ^ e ≤ x := (le_div_iff₀ hUnit).mp hReach
      rw [abs_of_nonpos (by linarith), abs_of_neg (by linarith)]
      linarith
    exact ⟨hStrict.le, fun hTie => absurd hTie hStrict.ne⟩

/-- The significand has its bits, or is the next power of two after a carry. -/
theorem RoundsTo.bounds : m ≤ 2 ^ 53 ∧ (e = leastExponent ∨ 2 ^ 52 ≤ m) := by
  obtain ⟨hLow, hHigh⟩ := abs_le.mp h.near
  constructor
  · have hNext : (m : ℚ) < (2 ^ 53 + 1 : Nat) := by
      push_cast
      linarith [h.below]
    exact Nat.lt_succ_iff.mp (by exact_mod_cast hNext)
  · refine h.full.imp_right fun hFull => ?_
    have hPrevious : ((2 ^ 52 - 1 : Nat) : ℚ) < m := by
      push_cast
      linarith
    exact Nat.succ_le_of_lt (by exact_mod_cast hPrevious)

/-- Without a carry the magnitude is less than half a unit above the greatest significand,
a tie going to the power of two. -/
theorem RoundsTo.lt_of_lt (hCarry : m ≠ 2 ^ 53) : x < (2 ^ 53 - 1 / 2) * 2 ^ e := by
  have hLt : m < 2 ^ 53 := lt_of_le_of_ne h.bounds.1 hCarry
  rw [← div_lt_iff₀ (by positivity)]
  obtain ⟨hLow, -⟩ := abs_le.mp h.near
  have hLast : (m : ℚ) ≤ (2 ^ 53 - 1 : Nat) := by exact_mod_cast Nat.le_pred_of_lt hLt
  push_cast at hLast
  refine lt_of_le_of_ne (by linarith) fun hTie => ?_
  have hOdd : m = 2 ^ 53 - 1 := by
    refine le_antisymm (Nat.le_pred_of_lt hLt) ?_
    have hGe : ((2 ^ 53 - 1 : Nat) : ℚ) ≤ m := by
      push_cast
      linarith
    exact_mod_cast hGe
  have hEven := h.even (by rw [hTie, hOdd]; norm_num)
  omega

/-- The magnitude is at least half a unit below the significand after a carry. -/
theorem RoundsTo.le_of_carry (hCarry : m = 2 ^ 53) : (2 ^ 53 - 1 / 2) * 2 ^ e ≤ x := by
  rw [← le_div_iff₀ (by positivity)]
  obtain ⟨-, hHigh⟩ := abs_le.mp h.near
  rw [hCarry] at hHigh
  push_cast at hHigh
  linarith

/-- Beyond the greatest exponent there is no finite number that is near. -/
theorem RoundsTo.overflow_le
    (hGreatest : greatestExponent < e ∨ m = 2 ^ 53 ∧ greatestExponent ≤ e) : overflow ≤ x := by
  rw [overflow]
  rcases hGreatest with hGreatest | ⟨hCarry, hGreatest⟩
  · have hFull : (2 : ℚ) ^ 52 ≤ x / 2 ^ e :=
      h.full.resolve_left fun hLeast => absurd (hLeast ▸ hGreatest) (by decide)
    calc ((2 ^ 53 - 1 / 2) * 2 ^ greatestExponent : ℚ)
        ≤ 2 ^ 53 * 2 ^ greatestExponent := by gcongr; norm_num
      _ = 2 ^ 52 * 2 ^ (greatestExponent + 1) := by rw [zpow_add_one₀ two_ne_zero]; ring
      _ ≤ 2 ^ 52 * 2 ^ e := by
          gcongr
          · norm_num
          · exact hGreatest
      _ ≤ x := (le_div_iff₀ (by positivity)).mp hFull
  · refine le_trans ?_ (h.le_of_carry hCarry)
    gcongr
    norm_num

/-- Up to the greatest exponent there is a finite number that is near. -/
theorem RoundsTo.lt_overflow
    (hGreatest : e < greatestExponent ∨ m ≠ 2 ^ 53 ∧ e ≤ greatestExponent) : x < overflow := by
  rw [overflow]
  rcases hGreatest with hGreatest | ⟨hCarry, hGreatest⟩
  · calc x < 2 ^ 53 * 2 ^ e := (div_lt_iff₀ (by positivity)).mp h.below
      _ = 2 ^ 52 * 2 ^ (e + 1) := by rw [zpow_add_one₀ two_ne_zero]; ring
      _ ≤ 2 ^ 52 * 2 ^ greatestExponent := by
          gcongr
          · norm_num
          · exact hGreatest
      _ ≤ (2 ^ 53 - 1 / 2) * 2 ^ greatestExponent := by gcongr; norm_num
  · refine (h.lt_of_lt hCarry).trans_le ?_
    gcongr
    norm_num

/-- Any form of the number of units will do, if it is one of the format. -/
theorem RoundsTo.isNearest_finite {significand : Nat} {exponent : ℤ}
    (hFormat : InFormat significand exponent)
    (hSame : (significand * 2 ^ exponent : ℚ) = m * 2 ^ e)
    (hEven : m % 2 = 0 → significand % 2 = 0) (hNonneg : 0 ≤ x) (hBelow : x < overflow)
    (negative : Bool) :
    IsNearest (signed negative x) (.finite negative significand exponent) := by
  refine ⟨hFormat, ?_, ?_, fun other k f hOther => ?_⟩
  · rw [abs_signed, abs_of_nonneg hNonneg]
    exact hBelow
  · rw [signed_signed]
    exact hNonneg
  · have hDistance : |value negative significand exponent - signed negative x| =
        |m * 2 ^ e - x| := by
      rw [value, signed_sub, abs_signed, hSame]
    have hOtherDistance : |value other k f - signed negative x| =
        |value (negative != other) k f - x| := by
      rw [← signed_value, ← abs_signed negative (_ - x), ← signed_sub, signed_signed]
    obtain ⟨hLe, hTie⟩ := h.nearest (negative != other) hOther
    rw [hDistance, hOtherDistance]
    refine ⟨hLe, fun hEqual => (hTie hEqual).imp (fun hValue => ?_) hEven⟩
    rw [← signed_signed negative (value other k f), signed_value, hValue, value, hSame]

end

theorem isNearest_zero (negative : Bool) : IsNearest 0 (zero negative) := by
  have hZero : signed negative 0 = 0 := by cases negative <;> simp [signed]
  have hValue : value negative 0 leastExponent = 0 := by rw [value, Nat.cast_zero, zero_mul, hZero]
  refine ⟨⟨by decide, le_rfl, by decide, Or.inl rfl⟩, ?_, hZero.ge, fun other k f _ => ?_⟩
  · rw [abs_zero, overflow]
    exact mul_pos (by norm_num) (by positivity)
  · rw [hValue, sub_zero, abs_zero]
    exact ⟨abs_nonneg _, fun _ => Or.inr rfl⟩

/-- A quotient is rounded to the nearest number of the format. -/
theorem isNearest_ofRatio (negative : Bool) (num : Nat) {den : Nat} (hDen : den ≠ 0) :
    IsNearest (signed negative (num / den)) (ofRatio negative num den) := by
  by_cases hNum : num = 0
  · have hZero : signed negative ((num : ℚ) / den) = 0 := by
      rw [hNum, Nat.cast_zero, zero_div]
      cases negative <;> simp [signed]
    rw [hZero, ofRatio, if_pos hNum]
    exact isNearest_zero negative
  have hRounds := roundsTo_roundQuotient hNum hDen
  have hNonneg : (0 : ℚ) ≤ num / den := by positivity
  rw [ofRatio, if_neg hNum]
  simp only
  generalize exponentOf num den = e at *
  generalize roundQuotient (scaled num den e).1 (scaled num den e).2 = m at *
  by_cases hCarry : m = 2 ^ 53
  · rw [if_pos (show m = significandBound from hCarry)]
    simp only
    split_ifs with hGreatest
    · refine (hRounds.overflow_le (Or.inr ⟨hCarry, ?_⟩)).trans_eq (signed_signed negative _).symm
      omega
    · have hLeast := hRounds.least
      refine hRounds.isNearest_finite ⟨by decide, by omega, by omega, Or.inr (by decide)⟩ ?_
        (fun _ => by decide) hNonneg (hRounds.lt_overflow (Or.inl (by omega))) negative
      rw [hCarry, zpow_add_one₀ two_ne_zero, significandBound]
      push_cast
      ring
  · rw [if_neg (show m ≠ significandBound from hCarry)]
    simp only
    split_ifs with hGreatest
    · exact (hRounds.overflow_le (Or.inl hGreatest)).trans_eq (signed_signed negative _).symm
    · obtain ⟨hLe, hFull⟩ := hRounds.bounds
      exact hRounds.isNearest_finite
        ⟨lt_of_le_of_ne hLe hCarry, hRounds.least, not_lt.mp hGreatest, hFull⟩ rfl id hNonneg
        (hRounds.lt_overflow (Or.inr ⟨hCarry, not_lt.mp hGreatest⟩)) negative

end Binary64

end PoolLogin
