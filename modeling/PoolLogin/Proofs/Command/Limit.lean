import Mathlib.Data.List.TakeDrop
import Mathlib.Data.List.TakeWhile
import PoolLogin.Login.Truncate
import PoolLogin.Proofs.Text.Lines
import PoolLogin.Proofs.Text.Numeral

/-! Limits in plain digits. Every natural number that is not too long can be
given as a limit. -/

namespace PoolLogin.Command

theorem trim_of_forall {drop : Char → Bool} {text : Text} (h : ∀ c ∈ text, drop c = false) :
    Text.trim drop text = text := by
  have hDrop : ∀ text : Text, (∀ c ∈ text, drop c = false) → text.dropWhile drop = text := by
    intro text h
    cases text with
    | nil => rfl
    | cons c rest => rw [List.dropWhile_cons, if_neg (by simp [h c List.mem_cons_self])]
  rw [Text.trim, hDrop text h, hDrop _ (fun c hc => h c (List.mem_reverse.mp hc)),
    List.reverse_reverse]

theorem isLimitSpace_of_isDigit {c : Char} (h : c.isDigit) : isLimitSpace c = false := by
  have hNat := Numeral.toNat_of_isDigit h
  have hBlank : Text.isBlank c = false := by
    simp [Text.isBlank]
    omega
  rw [isLimitSpace, hBlank, Bool.false_and]

theorem ne_of_isDigit {c d : Char} (h : c.isDigit) (hd : d.isDigit = false) : c ≠ d := by
  rintro rfl
  rw [hd] at h
  cases h

theorem dropLeadingZeros_natural (n : Nat) :
    dropLeadingZeros (Numeral.natural n) = some (Numeral.natural n) := by
  obtain ⟨c, rest, hEq, hDigits, hZero⟩ := Numeral.natural_eq_cons n
  rw [hEq, dropLeadingZeros]
  split_ifs with hc hLeading
  · rw [hZero hc, hc]
    rfl
  · rfl
  · have hNat := Numeral.toNat_of_isDigit (hDigits c List.mem_cons_self)
    have hNotZero : c.toNat ≠ 48 := fun h => hc (Char.toNat_inj.mp h)
    simp only [isLeadingDigit, Char.le_def, Bool.and_eq_true, decide_eq_true_eq,
      UInt32.le_iff_toNat_le] at hLeading
    exact absurd ⟨show 49 ≤ c.toNat by omega, hNat.2⟩ hLeading

theorem dropZeroFraction_natural (n : Nat) :
    dropZeroFraction (Numeral.natural n) = Numeral.natural n := by
  have hSpan : (Numeral.natural n).span (· != '.') = (Numeral.natural n, []) := by
    have hPoint : ∀ c ∈ Numeral.natural n, (c != '.') = true := fun c hc =>
      bne_iff_ne.mpr (ne_of_isDigit (Numeral.isDigit_of_mem_natural c hc) (by decide))
    rw [List.span_eq_takeWhile_dropWhile, List.takeWhile_eq_self_iff.mpr hPoint,
      List.dropWhile_eq_nil_iff.mpr hPoint]
  rw [dropZeroFraction, hSpan]

theorem joinGroups?_natural (n : Nat) :
    joinGroups? (Numeral.natural n) = some (Numeral.natural n) := by
  obtain ⟨c, rest, hEq, _⟩ := Numeral.natural_eq_cons n
  have hGroups : Text.splitAt (· == '_') (Numeral.natural n) = [Numeral.natural n] :=
    Text.splitAt_of_none fun c hc =>
      beq_eq_false_iff_ne.mpr (ne_of_isDigit (Numeral.isDigit_of_mem_natural c hc) (by decide))
  rw [joinGroups?, hGroups, hEq]
  simp

/-- Every natural number that does not have too many digits can be given as a limit. -/
theorem limitOfText?_natural {n : Nat} (h : (Numeral.natural n).length ≤ Numeral.maxDigits) :
    limitOfText? (Numeral.natural n) = some (n : Int) := by
  have hTrim : Text.trim isLimitSpace (Numeral.natural n) = Numeral.natural n :=
    trim_of_forall fun c hc => isLimitSpace_of_isDigit (Numeral.isDigit_of_mem_natural c hc)
  have hAll : (Numeral.natural n).all (fun c => '0' ≤ c && c ≤ '9') = true := by
    rw [List.all_eq_true]
    intro c hc
    have hDigit := Numeral.isDigit_of_mem_natural c hc
    simpa only [Char.isDigit, Char.le_def] using hDigit
  have hValue :
      ((Numeral.value 10 ((Numeral.natural n).filterMap Numeral.asciiDigit?) : Nat) : Int) =
      n := congrArg Nat.cast (Numeral.value_natural n)
  have hZeros := dropLeadingZeros_natural n
  have hFraction := dropZeroFraction_natural n
  have hGroups := joinGroups?_natural n
  obtain ⟨c, rest, hEq, hDigits, _⟩ := Numeral.natural_eq_cons n
  have hDigit := hDigits c List.mem_cons_self
  have hMinus : c ≠ '-' := ne_of_isDigit hDigit (by decide)
  have hPlus : c ≠ '+' := ne_of_isDigit hDigit (by decide)
  rw [hEq] at hTrim hAll hValue hZeros hFraction hGroups h ⊢
  simp only [limitOfText?, hTrim, List.cons.injEq, hMinus, hPlus, false_and, imp_false,
    not_false_eq_true, implies_true, hZeros, hFraction, hGroups, Option.bind_eq_bind,
    Option.bind_some, hAll, List.nil_append]
  rw [if_pos (by simpa using h), if_pos (by rfl), hValue]
  rfl

end PoolLogin.Command
