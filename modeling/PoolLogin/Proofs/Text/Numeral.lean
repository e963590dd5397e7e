import Mathlib.Algebra.Ring.Nat
import Mathlib.Data.Bool.AllAny
import Mathlib.Data.List.Basic
import Mathlib.Tactic.SplitIfs
import PoolLogin.Text.Numeral

/-! Digits and what they are worth. A number that is written in a base below
seventeen is read back from its digits, and its digits are printable. -/

namespace PoolLogin

namespace Numeral

theorem asciiDigit?_digitChar : ∀ d < 16, asciiDigit? (Nat.digitChar d) = some d := by decide

theorem value_append_singleton (base : Nat) (digits : List Nat) (d : Nat) :
    value base (digits ++ [d]) = value base digits * base + d := by
  simp [value, List.foldl_append]

/-- Digits are worth the number that they were made from. -/
theorem value_toDigits {base : Nat} (hBase : 1 < base) (hLetters : base ≤ 16) (n : Nat) :
    value base ((Nat.toDigits base n).filterMap asciiDigit?) = n := by
  induction n using Nat.strongRecOn with
  | ind n ih =>
      have hLast : n % base < 16 := Nat.lt_of_lt_of_le (Nat.mod_lt n (by omega)) hLetters
      rw [Nat.toDigits_eq_if hBase]
      split_ifs with h
      · rw [List.filterMap_cons, asciiDigit?_digitChar n (by omega)]
        simp [value]
      · have hShort : n / base < n := Nat.div_lt_self (by omega) hBase
        rw [List.filterMap_append, List.filterMap_cons, asciiDigit?_digitChar _ hLast]
        change value base (_ ++ [n % base]) = n
        rw [value_append_singleton, ih (n / base) hShort]
        exact Nat.div_add_mod' n base

theorem toNat_of_isDigit {c : Char} (h : c.isDigit) : 48 ≤ c.toNat ∧ c.toNat ≤ 57 := by
  simp only [Char.isDigit, Bool.and_eq_true, decide_eq_true_eq, ge_iff_le,
    UInt32.le_iff_toNat_le] at h
  exact h

theorem isDigit_of_mem_natural {n : Nat} : ∀ c ∈ natural n, c.isDigit := fun _ hc =>
  Nat.isDigit_of_mem_toDigits (by decide) (by decide) hc

/-- A number is written with digits only, and with a zero in front only if it is zero. -/
theorem natural_eq_cons (n : Nat) :
    ∃ c rest, natural n = c :: rest ∧ (∀ d ∈ c :: rest, d.isDigit) ∧ (c = '0' → rest = []) := by
  have hDigits := isDigit_of_mem_natural (n := n)
  suffices h : ∃ c rest, natural n = c :: rest ∧ (c = '0' → n = 0) by
    obtain ⟨c, rest, hEq, hZero⟩ := h
    refine ⟨c, rest, hEq, hEq ▸ hDigits, ?_⟩
    intro hc
    rw [hZero hc] at hEq
    exact (List.cons.inj hEq).2.symm
  clear hDigits
  induction n using Nat.strongRecOn with
  | ind n ih =>
      rw [natural, Nat.toDigits_eq_if (by decide)]
      split_ifs with h
      · exact ⟨Nat.digitChar n, [], rfl, fun hc => Nat.digitChar_eq_zero.mp hc⟩
      · obtain ⟨c, rest, hEq, hZero⟩ := ih (n / 10) (by omega)
        rw [natural] at hEq
        refine ⟨c, rest ++ [Nat.digitChar (n % 10)], by rw [hEq]; rfl, ?_⟩
        intro hc
        have := hZero hc
        omega

theorem value_natural (n : Nat) : value 10 ((natural n).filterMap asciiDigit?) = n :=
  value_toDigits (by decide) (by decide) n

/-- The last digit of a number stands behind the digits of the others. -/
theorem hexadecimal_succ {width : Nat} (hWidth : 0 < width) (n : Nat) :
    hexadecimal (width + 1) n = hexadecimal width (n / 16) ++ [Nat.digitChar (n % 16)] := by
  simp only [hexadecimal, padZeros]
  rw [Nat.toDigits_eq_if (b := 16) (n := n) (by decide)]
  split_ifs with h
  · obtain ⟨k, rfl⟩ := Nat.exists_eq_add_of_lt hWidth
    rw [Nat.div_eq_of_lt h, Nat.mod_eq_of_lt h, Nat.toDigits_zero, Nat.zero_add]
    simp [List.replicate_succ']
  · rw [List.length_append, List.length_singleton, Nat.add_sub_add_right, List.append_assoc]

/-- As many digits as a number is written with, if they are enough for it. -/
theorem hexadecimal_digits {width n : Nat} (hWidth : 0 < width) (h : n < 16 ^ width) :
    ∃ digits : List Nat, digits.length = width ∧ (∀ d ∈ digits, d < 16) ∧
      value 16 digits = n ∧ hexadecimal width n = digits.map Nat.digitChar := by
  induction width generalizing n with
  | zero => omega
  | succ width ih =>
      rcases Nat.eq_zero_or_pos width with rfl | hPos
      · refine ⟨[n], rfl, by simpa using h, by simp [value], ?_⟩
        rw [hexadecimal, padZeros, Nat.toDigits_of_lt_base (by simpa using h)]
        rfl
      · obtain ⟨digits, hLength, hSmall, hValue, hDigits⟩ :=
          ih hPos (n := n / 16) (by rw [Nat.pow_succ] at h; omega)
        refine ⟨digits ++ [n % 16], by simp [hLength], ?_, ?_, ?_⟩
        · intro d hd
          rcases List.mem_append.mp hd with hd | hd
          · exact hSmall d hd
          · rw [List.mem_singleton.mp hd]
            omega
        · rw [value_append_singleton, hValue]
          exact Nat.div_add_mod' n 16
        · rw [hexadecimal_succ hPos, hDigits, List.map_append]
          rfl

theorem filterMap_digitChar {digits : List Nat} (h : ∀ d ∈ digits, d < 16) :
    (digits.map Nat.digitChar).filterMap asciiDigit? = digits := by
  induction digits with
  | nil => rfl
  | cons d digits ih =>
      obtain ⟨hd, hDigits⟩ := List.forall_mem_cons.mp h
      rw [List.map_cons, List.filterMap_cons, asciiDigit?_digitChar d hd, ih hDigits]

/-- The four digits of a number that two bytes can hold. -/
theorem hexadecimal_four {n : Nat} (h : n < 0x10000) :
    ∃ a < 16, ∃ b < 16, ∃ c < 16, ∃ d < 16, n = ((a * 16 + b) * 16 + c) * 16 + d ∧
      hexadecimal 4 n = [a, b, c, d].map Nat.digitChar := by
  obtain ⟨digits, hLength, hSmall, hValue, hDigits⟩ :=
    hexadecimal_digits (show 0 < 4 by decide) h
  obtain ⟨a, b, c, d, rfl⟩ := List.length_eq_four.mp hLength
  simp only [List.forall_mem_cons] at hSmall
  obtain ⟨ha, hb, hc, hd, _⟩ := hSmall
  refine ⟨a, ha, b, hb, c, hc, d, hd, ?_, hDigits⟩
  rw [← hValue]
  simp [value]

end Numeral

namespace CodePoint

/-- A character is the code point of its number. -/
theorem ofNat_char (c : Char) : ofNat c.toNat = .char c := by
  have hValid : c.toNat < 0xD800 ∨ 0xDFFF < c.toNat ∧ c.toNat < 0x110000 := c.valid
  rw [ofNat, firstSurrogate, if_neg (by omega), Char.ofNat_toNat]

theorem ofNat_toNat (c : CodePoint) : ofNat c.toNat = c := by
  cases c with
  | char c => exact ofNat_char c
  | surrogate n =>
      rw [toNat, ofNat, if_pos (by omega), Nat.add_sub_cancel_left]
      exact congrArg surrogate (Fin.ext (Nat.mod_eq_of_lt n.isLt))

theorem toNat_lt (c : CodePoint) : c.toNat < 0x110000 := by
  cases c with
  | char c => exact c.valid.elim (fun h => Nat.lt_trans h (by decide)) And.right
  | surrogate n =>
      rw [toNat, firstSurrogate]
      omega

end CodePoint

namespace Text

/-! ### Printable characters -/

/-- A printable character of ASCII. -/
def IsPlain (c : Char) : Prop := 0x20 ≤ c.toNat ∧ c.toNat < 0x7F

instance (c : Char) : Decidable (IsPlain c) := inferInstanceAs (Decidable (_ ∧ _))

/-- A text is looked through character by character. -/
theorem forall_isPlain {text : Text} (h : text.all fun c => IsPlain c) : ∀ c ∈ text, IsPlain c :=
  List.all_iff_forall_prop.mp h

theorem isPlain_natural (n : Nat) : ∀ c ∈ Numeral.natural n, IsPlain c := by
  intro c hc
  have hDigit := Numeral.toNat_of_isDigit (Numeral.isDigit_of_mem_natural c hc)
  constructor <;> omega

theorem IsPlain.ne {c d : Char} (h : IsPlain c) (hd : ¬IsPlain d) : c ≠ d := by
  rintro rfl
  exact hd h

end Text

end PoolLogin
