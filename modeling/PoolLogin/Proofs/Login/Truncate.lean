import PoolLogin.Login.Truncate
import PoolLogin.Proofs.Text.Lossy

/-! Worker names that are cut. A text loses the characters that the limit has no
room for and nothing in front of them, and bytes that are no text come to no
more than the limit either. -/

namespace PoolLogin.Login

open Utf8

theorem cut_of_pos {limit : Int} (h : 0 < limit) (bytes : Bytes) :
    cut limit bytes = bytes.take limit.toNat :=
  if_pos (Int.le_of_lt h)

/-! ### Texts -/

@[simp] theorem truncate_zero (name : Text) : truncate 0 name = name := by
  simp [truncate]

/-- Whether a name fits or not, the characters are left that the limit has room for. -/
theorem truncate_eq_fitting {limit : Int} (h : 0 < limit) (name : Text) :
    truncate limit name = fitting limit.toNat name := by
  rw [truncate]
  split_ifs with hFits
  · exact (fitting_eq_self (by omega)).symm
  · rw [cut_of_pos h, decodeLossy_take_encode]

theorem truncate_isPrefix {limit : Int} (h : 0 ≤ limit) (name : Text) :
    truncate limit name <+: name := by
  rcases Int.lt_or_eq_of_le h with hPos | rfl
  · rw [truncate_eq_fitting hPos]
    exact fitting_isPrefix _ name
  · simp only [truncate_zero, List.prefix_rfl]

theorem length_encode_truncate_le {limit : Int} (h : 0 < limit) (name : Text) :
    (encode (truncate limit name)).length ≤ limit := by
  have hBytes := length_encode_fitting_le limit.toNat name
  rw [truncate_eq_fitting h]
  omega

theorem isPrefix_truncate {limit : Int} (h : 0 < limit) {name start : Text}
    (hStart : start <+: name) (hFits : (encode start).length ≤ limit) :
    start <+: truncate limit name := by
  rw [truncate_eq_fitting h]
  exact isPrefix_fitting hStart (by omega)

theorem truncate_of_fits {limit : Int} {name : Text} (h : (encode name).length ≤ limit) :
    truncate limit name = name :=
  if_pos (Or.inr h)

theorem limit_le_of_truncate {limit : Int} (h : 0 < limit) {name : Text}
    (hLong : limit < (encode name).length) :
    limit ≤ (encode (truncate limit name)).length + 3 := by
  have hSize : limit.toNat < (encode name).length := by omega
  have hBytes := size_le_of_fitting hSize
  rw [truncate_eq_fitting h]
  omega

theorem truncate_truncate {first second : Int} (hFirst : 0 < first) (hSecond : 0 < second)
    (name : Text) : truncate second (truncate first name) = truncate (min first second) name := by
  have hMin : (min first second).toNat = min first.toNat second.toNat := by omega
  rw [truncate_eq_fitting hFirst, truncate_eq_fitting hSecond, truncate_eq_fitting (by omega),
    fitting_fitting, hMin]

/-! ### Bytes -/

@[simp] theorem truncateBytes_zero (bytes : Bytes) : truncateBytes 0 bytes = bytes := by
  simp [truncateBytes]

/-- The bytes of a text are cut as the text is. -/
theorem truncateBytes_encode (limit : Int) (name : Text) :
    truncateBytes limit (encode name) = encode (truncate limit name) := by
  simp only [truncateBytes, truncate]
  split_ifs <;> rfl

/-- Bytes that do not fit are read as a text. -/
theorem truncateBytes_of_long {limit : Int} (h : 0 < limit) {bytes : Bytes}
    (hLong : limit < bytes.length) :
    truncateBytes limit bytes = encode (decodeLossy (bytes.take limit.toNat)) := by
  rw [truncateBytes, if_neg (by omega), cut_of_pos h]

theorem length_truncateBytes_le {limit : Int} (h : 0 < limit) (bytes : Bytes) :
    (truncateBytes limit bytes).length ≤ limit := by
  rcases Int.lt_or_le limit bytes.length with hLong | hFits
  · have hRead := length_encode_decodeLossy_le (bytes.take limit.toNat)
    rw [List.length_take] at hRead
    rw [truncateBytes_of_long h hLong]
    omega
  · rwa [truncateBytes, if_pos (Or.inr hFits)]

/-! ### What is cut -/

/-- A text is cut to the longest of its starts that take at most `limit` bytes:
all of it if it fits, and else at most three bytes less than the limit. To cut it
twice is to cut it to the smaller limit. Whatever the bytes of a name, at most
`limit` of them are left, they are a text if there were more, and they are not
cut again; the bytes of a text are cut as the text is. A limit of zero leaves
everything as it is. -/
theorem truncate_longest_start {limit : Int} (hLimit : 0 < limit) :
    (∀ name : Text, truncate limit name <+: name ∧
      (encode (truncate limit name)).length ≤ limit ∧
      (∀ start, start <+: name → (encode start).length ≤ limit →
        start <+: truncate limit name) ∧
      ((encode name).length ≤ limit → truncate limit name = name) ∧
      (limit < (encode name).length → limit ≤ (encode (truncate limit name)).length + 3) ∧
      ∀ other : Int, 0 < other →
        truncate limit (truncate other name) = truncate (min other limit) name) ∧
    (∀ bytes : Bytes, (truncateBytes limit bytes).length ≤ limit ∧
      (limit < bytes.length → ∃ text, decode (truncateBytes limit bytes) = .ok text) ∧
      truncateBytes limit (truncateBytes limit bytes) = truncateBytes limit bytes) ∧
    (∀ name : Text, truncateBytes limit (encode name) = encode (truncate limit name)) ∧
    (∀ name : Text, truncate 0 name = name) ∧
    ∀ bytes : Bytes, truncateBytes 0 bytes = bytes := by
  refine ⟨fun name => ?_, fun bytes => ?_, truncateBytes_encode limit, truncate_zero,
    truncateBytes_zero⟩
  · refine ⟨truncate_isPrefix (Int.le_of_lt hLimit) name, length_encode_truncate_le hLimit name, ?_,
      truncate_of_fits, limit_le_of_truncate hLimit, ?_⟩
    · intro start hStart hFits
      exact isPrefix_truncate hLimit hStart hFits
    · intro other hOther
      exact truncate_truncate hOther hLimit name
  · have hLength := length_truncateBytes_le hLimit bytes
    refine ⟨hLength, ?_, if_pos (Or.inr hLength)⟩
    intro hLong
    rw [truncateBytes_of_long hLimit hLong]
    exact ⟨_, decode_encode _⟩

/-- A text that is cut in the middle of a character of three bytes, and bytes that are cut behind
one that is no text and in the middle of a character. -/
theorem truncate_in_character :
    truncate 5 "aä€z".toList = "aä".toList ∧
      truncateBytes 5 [0x61, 0xFF, 0x62, 0xE2, 0x82, 0xAC] = [0x61, 0x62] ∧
      5 ≤ (encode (truncate 5 "aä€z".toList)).length + 3 ∧
      ∃ text, decode (truncateBytes 5 [0x61, 0xFF, 0x62, 0xE2, 0x82, 0xAC]) = .ok text := by
  obtain ⟨hText, hBytes, _⟩ := truncate_longest_start (show (0 : Int) < 5 by decide)
  refine ⟨by decide +kernel, by decide +kernel, ?_, ?_⟩
  · have hClose := (hText "aä€z".toList).2.2.2.2.1 (by decide +kernel)
    exact Int.ofNat_le.mp hClose
  · exact (hBytes _).2.1 (by decide)

end PoolLogin.Login
