import Mathlib.Data.List.Basic
import Mathlib.Tactic.SplitIfs
import PoolLogin.Proofs.Text.Join

/-! UTF-8 there and back. The bytes of a character are read as that
character, so the bytes of a text are read as that text. -/

namespace PoolLogin.Utf8

theorem byte_toNat {n : Nat} (h : n < 256) : (UInt8.ofNat n).toNat = n :=
  UInt8.toNat_ofNat_of_lt' h

/-! ### First bytes -/

theorem start_two : ∀ n < 32, 2 ≤ n →
    start (UInt8.ofNat (0xC0 + n)) = ([], .owing 1 0x80 0xBF n [UInt8.ofNat (0xC0 + n)]) := by
  decide

theorem start_three : ∀ n < 16, start (UInt8.ofNat (0xE0 + n)) =
    ([], .owing 2 (if n = 0 then 0xA0 else 0x80) (if n = 13 then 0x9F else 0xBF) n
      [UInt8.ofNat (0xE0 + n)]) := by
  decide

theorem start_four : ∀ n < 5, start (UInt8.ofNat (0xF0 + n)) =
    ([], .owing 3 (if n = 0 then 0x90 else 0x80) (if n = 4 then 0x8F else 0xBF) n
      [UInt8.ofNat (0xF0 + n)]) := by
  decide

/-! ### Bytes that follow -/

section

variable {owed low high value n : Nat} {seen : Bytes} (hLow : low ≤ 0x80 + n)
  (hHigh : 0x80 + n ≤ high) (hByte : n < 64)

include hLow hHigh hByte

theorem piecesFrom_last (rest : Bytes) :
    piecesFrom (.owing 1 low high value seen) (UInt8.ofNat (0x80 + n) :: rest) =
      .char (Char.ofNat (value * 64 + n)) :: piecesFrom .idle rest := by
  have hNat : (UInt8.ofNat (0x80 + n)).toNat = 0x80 + n := byte_toNat (by omega)
  simp only [piecesFrom, step, hNat]
  rw [if_pos ⟨hLow, hHigh⟩, if_pos (Nat.le_refl 1), Nat.add_sub_cancel_left]
  rfl

theorem piecesFrom_next (hOwed : 1 < owed) (rest : Bytes) :
    piecesFrom (.owing owed low high value seen) (UInt8.ofNat (0x80 + n) :: rest) =
      piecesFrom (.owing (owed - 1) 0x80 0xBF (value * 64 + n) (seen ++ [UInt8.ofNat (0x80 + n)]))
        rest := by
  have hNat : (UInt8.ofNat (0x80 + n)).toNat = 0x80 + n := byte_toNat (by omega)
  simp only [piecesFrom, step, hNat]
  rw [if_pos ⟨hLow, hHigh⟩, if_neg (Nat.not_le.mpr hOwed), Nat.add_sub_cancel_left]
  rfl

end

/-! ### Characters -/

theorem piecesFrom_start {b : UInt8} {state : State} (h : start b = ([], state)) (rest : Bytes) :
    piecesFrom .idle (b :: rest) = piecesFrom state rest := by
  rw [piecesFrom, step, h]
  rfl

/-- The bytes of a character are read as that character, whatever follows them. -/
theorem piecesFrom_encodeChar (c : Char) (rest : Bytes) :
    piecesFrom .idle (encodeChar c ++ rest) = .char c :: piecesFrom .idle rest := by
  have hValid : c.toNat < 0xD800 ∨ 0xDFFF < c.toNat ∧ c.toNat < 0x110000 := c.valid
  have hChar := Char.ofNat_toNat c
  simp only [encodeChar]
  generalize c.toNat = n at hValid hChar
  split_ifs with h1 h2 h3
  · have hNat : (UInt8.ofNat n).toNat = n := byte_toNat (by omega)
    simp only [List.cons_append, List.nil_append, piecesFrom, step, start]
    rw [hNat, if_pos h1, hChar]
    rfl
  · have hValue : n / 64 * 64 + n % 64 = n := Nat.div_add_mod' n 64
    simp only [List.cons_append, List.nil_append]
    rw [piecesFrom_start (start_two _ (by omega) (by omega)),
      piecesFrom_last (by omega) (by omega) (by omega), hValue, hChar]
  · have hValue : (n / 4096 * 64 + n / 64 % 64) * 64 + n % 64 = n := by omega
    simp only [List.cons_append, List.nil_append]
    rw [piecesFrom_start (start_three _ (by omega)),
      piecesFrom_next (by split_ifs <;> omega) (by split_ifs <;> omega) (by omega) (by decide),
      piecesFrom_last (by omega) (by omega) (by omega), hValue, hChar]
  · have hValue : ((n / 262144 * 64 + n / 4096 % 64) * 64 + n / 64 % 64) * 64 + n % 64 = n := by
      omega
    simp only [List.cons_append, List.nil_append]
    rw [piecesFrom_start (start_four _ (by omega)),
      piecesFrom_next (by split_ifs <;> omega) (by split_ifs <;> omega) (by omega) (by decide),
      piecesFrom_next (by omega) (by omega) (by omega) (by decide),
      piecesFrom_last (by omega) (by omega) (by omega), hValue, hChar]

/-! ### Texts -/

/-- The bytes of a text are nothing but its characters. -/
theorem pieces_encode (text : Text) : pieces (encode text) = text.map .char := by
  induction text with
  | nil => rfl
  | cons c text ih =>
      rw [encode_cons, pieces, piecesFrom_encodeChar, ← pieces, ih, List.map_cons]

theorem textOf_map (position : Nat) (text : Text) :
    textOf position (text.map .char) = .ok text := by
  induction text generalizing position with
  | nil => rfl
  | cons c text ih =>
      rw [List.map_cons, textOf, ih]
      rfl

theorem decode_encode (text : Text) : decode (encode text) = .ok text := by
  rw [decode, pieces_encode, textOf_map]

/-! ### Single bytes -/

/-- A byte of ASCII that a character is written with is the character itself. -/
theorem toNat_eq_of_mem_encodeChar {c : Char} {b : UInt8} (h : b ∈ encodeChar c)
    (hAscii : b.toNat < 0x80) : c.toNat = b.toNat := by
  have hValid : c.toNat < 0xD800 ∨ 0xDFFF < c.toNat ∧ c.toNat < 0x110000 := c.valid
  have hHigh : ∀ n < 256, 0x80 ≤ n → b ≠ UInt8.ofNat n := by
    rintro n hByte hLow rfl
    rw [byte_toNat hByte] at hAscii
    omega
  simp only [encodeChar] at h
  generalize c.toNat = n at h hValid
  -- All bytes of longer characters are 0x80 or more.
  split_ifs at h <;> simp only [List.mem_cons, List.not_mem_nil, or_false] at h
  · rw [h, byte_toNat (by omega)]
  · rcases h with h | h <;> exact absurd h (hHigh _ (by omega) (by omega))
  · rcases h with h | h | h <;> exact absurd h (hHigh _ (by omega) (by omega))
  · rcases h with h | h | h | h <;> exact absurd h (hHigh _ (by omega) (by omega))

theorem eq_of_mem_encodeChar {c d : Char} {b : UInt8} (hByte : d.toNat = b.toNat)
    (hAscii : b.toNat < 0x80) (h : b ∈ encodeChar c) : c = d := by
  apply Char.ext
  apply UInt32.toNat_inj.mp
  exact (toNat_eq_of_mem_encodeChar h hAscii).trans hByte.symm

/-- The byte of a delimiter stands in a text only where the delimiter does. -/
theorem notMem_encode {delimiter : Char} {b : UInt8} (hByte : delimiter.toNat = b.toNat)
    (hAscii : b.toNat < 0x80) {text : Text} (h : delimiter ∉ text) : b ∉ encode text := by
  intro hMem
  obtain ⟨c, hc, hb⟩ := List.mem_flatMap.mp hMem
  exact h (eq_of_mem_encodeChar hByte hAscii hb ▸ hc)

theorem encodeChar_ne_nil (c : Char) : encodeChar c ≠ [] := by
  simp only [encodeChar]
  split_ifs <;> exact List.cons_ne_nil _ _

theorem isEmpty_encode (text : Text) : (encode text).isEmpty = text.isEmpty := by
  cases text with
  | nil => rfl
  | cons c text => simp [encodeChar_ne_nil]

/-- A text that is written with a byte of ASCII at its end ends in that character. -/
theorem exists_of_getLast?_encode {c : Char} {b : UInt8} (hByte : c.toNat = b.toNat)
    (hAscii : b.toNat < 0x80) {text : Text} (h : (encode text).getLast? = some b) :
    ∃ start, text = start ++ [c] := by
  rcases List.eq_nil_or_concat text with rfl | ⟨start, d, rfl⟩
  · cases h
  · rw [List.concat_eq_append, encode_append, encode_cons, encode_nil, List.append_nil,
      List.getLast?_append_of_ne_nil _ (encodeChar_ne_nil d)] at h
    obtain rfl := eq_of_mem_encodeChar hByte hAscii (List.mem_of_getLast? h)
    exact ⟨start, List.concat_eq_append⟩

end PoolLogin.Utf8
