import Mathlib.Data.List.TakeDrop
import PoolLogin.Json.Reader
import PoolLogin.Proofs.Text.Numeral

/-! Whole numbers in JSON. A number goes on until something stands behind it
that can end a value. -/

namespace PoolLogin.Json

/-- What can stand behind a value: nothing, white space, a comma or a closing bracket. -/
def EndsValue (rest : Text) : Prop :=
  ∀ c ∈ rest.head?, isSpace c ∨ c = ',' ∨ c = ']' ∨ c = '\x7d'

theorem EndsValue.ne {rest : Text} (h : EndsValue rest) {c : Char} (hc : c ∈ rest.head?) :
    isDigit c = false ∧ c ≠ '.' ∧ c ≠ 'e' ∧ c ≠ 'E' := by
  have hEnd := h c hc
  simp only [isSpace, Bool.or_eq_true, beq_iff_eq] at hEnd
  rcases hEnd with (((rfl | rfl) | rfl) | rfl) | rfl | rfl | rfl <;> decide

theorem isDigit_of_isDigit {c : Char} (h : c.isDigit) : isDigit c := by
  simpa [isDigit, Char.isDigit, Char.le_def] using h

theorem readFraction_of_ends {rest : Text} (h : EndsValue rest) : readFraction rest = none := by
  cases rest with
  | nil => rfl
  | cons c rest =>
      have hPoint := (h.ne rfl).2.1
      rw [readFraction]
      rintro d later hEq
      exact hPoint (List.cons.inj hEq).1

theorem readExponent_of_ends {rest : Text} (h : EndsValue rest) : readExponent rest = none := by
  cases rest with
  | nil => rfl
  | cons c rest =>
      have hMark := (h.ne rfl).2.2
      rw [readExponent, if_neg (by simp [hMark])]

/-- Digits go on until the value ends. -/
theorem span_isDigit {digits rest : Text} (hDigits : ∀ d ∈ digits, d.isDigit) (h : EndsValue rest) :
    (digits ++ rest).span isDigit = (digits, rest) := by
  have hMem : ∀ d ∈ digits, isDigit d := fun d hd => isDigit_of_isDigit (hDigits d hd)
  have hRest : rest.takeWhile isDigit = [] ∧ rest.dropWhile isDigit = rest := by
    cases rest with
    | nil => exact ⟨rfl, rfl⟩
    | cons c rest => simp [(h.ne rfl).1]
  rw [List.span_eq_takeWhile_dropWhile, List.takeWhile_append_of_pos hMem,
    List.dropWhile_append_of_pos hMem, hRest.1, hRest.2, List.append_nil]

theorem readWhole_natural (n : Nat) {rest : Text} (h : EndsValue rest) :
    readWhole (Numeral.natural n ++ rest) = some (Numeral.natural n, rest) := by
  obtain ⟨c, digits, hEq, hDigits, hZero⟩ := Numeral.natural_eq_cons n
  rw [hEq, List.cons_append]
  by_cases hc : c = '0'
  · rw [hc, hZero hc]
    rfl
  · rw [readWhole]
    · rw [if_pos (isDigit_of_isDigit (hDigits c List.mem_cons_self)), ← List.cons_append,
        span_isDigit hDigits h]
    · exact hc

/-- A whole number is read as itself, if it does not have too many digits. -/
theorem readNumber_decimal {n : Int}
    (hLength : (Numeral.natural n.natAbs).length ≤ Numeral.maxDigits) {rest : Text}
    (h : EndsValue rest) : readNumber (Numeral.decimal n ++ rest) = .ok (.int n, rest) := by
  have hWhole := readWhole_natural n.natAbs h
  have hValue : readExponent.digitsValue (Numeral.natural n.natAbs) = n.natAbs :=
    Numeral.value_natural n.natAbs
  rw [Numeral.decimal]
  split_ifs with hSign
  · simp only [readNumber, List.cons_append, hWhole, readFraction_of_ends h,
      readExponent_of_ends h, Option.map_none, Option.getD_none, hValue]
    rw [if_neg (Nat.not_lt.mpr hLength), if_pos trivial, show -(n.natAbs : Int) = n by omega]
  · obtain ⟨c, digits, hEq, hDigits, _⟩ := Numeral.natural_eq_cons n.natAbs
    have hMinus : c ≠ '-' := by
      rintro rfl
      exact absurd (hDigits '-' List.mem_cons_self) (by decide)
    have hNumber : (n.natAbs : Int) = n := by omega
    rw [hEq] at hValue hWhole hLength ⊢
    rw [List.cons_append] at hWhole ⊢
    simp only [readNumber, List.cons.injEq, hMinus, false_and, imp_false, not_false_eq_true,
      implies_true, hWhole, readFraction_of_ends h, readExponent_of_ends h, Option.map_none,
      Option.getD_none, hValue]
    rw [if_neg (Nat.not_lt.mpr hLength), if_neg Bool.false_ne_true, hNumber]

end PoolLogin.Json
