import PoolLogin.Proofs.Text.Pieces

/-! Lossy reading of UTF-8. Of the bytes of a text, cut anywhere, the characters
before the cut are read, and no bytes at all are read as a text that takes more
bytes than they are. -/

namespace PoolLogin.Utf8

/-! ### Texts that are cut -/

/-- The characters at the start of a text that `size` bytes have room for. -/
def fitting (size : Nat) : Text → Text
  | [] => []
  | c :: text =>
    if (encodeChar c).length ≤ size then c :: fitting (size - (encodeChar c).length) text else []

theorem length_encodeChar (c : Char) :
    (encodeChar c).length =
      if c.toNat < 0x80 then 1
      else if c.toNat < 0x800 then 2
      else if c.toNat < 0x10000 then 3
      else 4 := by
  simp only [encodeChar]
  split_ifs <;> rfl

theorem length_encodeChar_le (c : Char) : (encodeChar c).length ≤ 4 := by
  rw [length_encodeChar]
  split_ifs <;> omega

theorem length_encode_cons (c : Char) (text : Text) :
    (encode (c :: text)).length = (encodeChar c).length + (encode text).length := by
  rw [encode_cons, List.length_append]

/-- A text of ASCII takes one byte a character. -/
theorem length_encode_of_ascii {text : Text} (h : ∀ c ∈ text, c.toNat < 0x80) :
    (encode text).length = text.length := by
  induction text with
  | nil => rfl
  | cons c text ih =>
      rw [length_encode_cons, length_encodeChar, if_pos (h c List.mem_cons_self),
        ih fun d hd => h d (List.mem_cons_of_mem c hd), List.length_cons, Nat.add_comm]

theorem fitting_isPrefix (size : Nat) (text : Text) : fitting size text <+: text := by
  induction text generalizing size with
  | nil => exact List.prefix_rfl
  | cons c text ih =>
      rw [fitting]
      split_ifs
      · exact (List.prefix_cons_inj c).mpr (ih _)
      · exact List.nil_prefix

theorem length_encode_fitting_le (size : Nat) (text : Text) :
    (encode (fitting size text)).length ≤ size := by
  induction text generalizing size with
  | nil => exact Nat.zero_le size
  | cons c text ih =>
      rw [fitting]
      split_ifs with hFits
      · have hRest := ih (size - (encodeChar c).length)
        rw [length_encode_cons]
        omega
      · exact Nat.zero_le size

/-- No start of the text that takes at most `size` bytes is longer. -/
theorem isPrefix_fitting {size : Nat} {text start : Text} (h : start <+: text)
    (hSize : (encode start).length ≤ size) : start <+: fitting size text := by
  induction text generalizing size start with
  | nil => exact h
  | cons c text ih =>
      rcases List.prefix_cons_iff.mp h with rfl | ⟨start, rfl, hStart⟩
      · exact List.nil_prefix
      · rw [length_encode_cons] at hSize
        rw [fitting, if_pos (by omega), List.prefix_cons_inj]
        exact ih hStart (by omega)

theorem fitting_eq_self {size : Nat} {text : Text} (h : (encode text).length ≤ size) :
    fitting size text = text :=
  (fitting_isPrefix size text).eq_of_length_le (isPrefix_fitting List.prefix_rfl h).length_le

/-- Where a text is cut there is no room for one more character of up to four bytes. -/
theorem size_le_of_fitting {size : Nat} {text : Text} (h : size < (encode text).length) :
    size ≤ (encode (fitting size text)).length + 3 := by
  induction text generalizing size with
  | nil => cases h
  | cons c text ih =>
      rw [length_encode_cons] at h
      rw [fitting]
      split_ifs with hFits
      · have hLess : size - (encodeChar c).length < (encode text).length := by omega
        have hRest := ih hLess
        rw [length_encode_cons]
        omega
      · have hChar := length_encodeChar_le c
        rw [encode_nil, List.length_nil]
        omega

theorem fitting_fitting (first second : Nat) (text : Text) :
    fitting second (fitting first text) = fitting (min first second) text := by
  apply List.IsPrefix.eq_of_length_le
  · apply isPrefix_fitting
    · exact (fitting_isPrefix second _).trans (fitting_isPrefix first text)
    · apply Nat.le_min.mpr
      constructor
      · have hBytes := encode_isPrefix (fitting_isPrefix second (fitting first text))
        exact Nat.le_trans hBytes.length_le (length_encode_fitting_le first text)
      · exact length_encode_fitting_le second _
  · apply List.IsPrefix.length_le
    have hSize := Nat.le_min.mp (length_encode_fitting_le (min first second) text)
    exact isPrefix_fitting (isPrefix_fitting (fitting_isPrefix _ text) hSize.1) hSize.2

/-! ### Bytes that are cut -/

theorem decodeLossy_encodeChar_append (c : Char) (rest : Bytes) :
    decodeLossy (encodeChar c ++ rest) = c :: decodeLossy rest := by
  rw [decodeLossy, pieces, piecesFrom_encodeChar]
  rfl

/-- The bytes of a character are none without the last of them. -/
theorem decodeLossy_take_encodeChar {c : Char} {size : Nat} (h : size < (encodeChar c).length) :
    decodeLossy ((encodeChar c).take size) = [] := by
  have hValid : c.toNat < 0xD800 ∨ 0xDFFF < c.toNat ∧ c.toNat < 0x110000 := c.valid
  simp only [encodeChar] at h ⊢
  generalize c.toNat = n at h hValid
  rw [decodeLossy, pieces]
  split_ifs at h ⊢ with h1 h2 h3
  · obtain rfl : size = 0 := by simpa using h
    rfl
  · have hSize : size = 0 ∨ size = 1 := by
      simp only [List.length_cons, List.length_nil] at h
      omega
    rcases hSize with rfl | rfl
    · rfl
    · rw [List.take_succ_cons, piecesFrom_start (start_two _ (by omega) (by omega))]
      rfl
  · have hSize : size = 0 ∨ size = 1 ∨ size = 2 := by
      simp only [List.length_cons, List.length_nil] at h
      omega
    rcases hSize with rfl | rfl | rfl
    · rfl
    · rw [List.take_succ_cons, piecesFrom_start (start_three _ (by omega))]
      rfl
    · rw [List.take_succ_cons, List.take_succ_cons, piecesFrom_start (start_three _ (by omega)),
        piecesFrom_next (by split_ifs <;> omega) (by split_ifs <;> omega) (by omega) (by decide)]
      rfl
  · have hSize : size = 0 ∨ size = 1 ∨ size = 2 ∨ size = 3 := by
      simp only [List.length_cons, List.length_nil] at h
      omega
    rcases hSize with rfl | rfl | rfl | rfl
    · rfl
    · rw [List.take_succ_cons, piecesFrom_start (start_four _ (by omega))]
      rfl
    · rw [List.take_succ_cons, List.take_succ_cons, piecesFrom_start (start_four _ (by omega)),
        piecesFrom_next (by split_ifs <;> omega) (by split_ifs <;> omega) (by omega) (by decide)]
      rfl
    · rw [List.take_succ_cons, List.take_succ_cons, List.take_succ_cons,
        piecesFrom_start (start_four _ (by omega)),
        piecesFrom_next (by split_ifs <;> omega) (by split_ifs <;> omega) (by omega) (by decide),
        piecesFrom_next (by omega) (by omega) (by omega) (by decide)]
      rfl

/-- Of the first bytes of a text those characters are read that they have room for. -/
theorem decodeLossy_take_encode (size : Nat) (text : Text) :
    decodeLossy ((encode text).take size) = fitting size text := by
  induction text generalizing size with
  | nil =>
      rw [encode_nil, List.take_nil]
      rfl
  | cons c text ih =>
      rw [encode_cons, List.take_append, fitting]
      split_ifs with hFits
      · rw [List.take_of_length_le hFits, decodeLossy_encodeChar_append, ih]
      · rw [Nat.sub_eq_zero_of_le (by omega), List.take_zero, List.append_nil]
        exact decodeLossy_take_encodeChar (by omega)

/-! ### Any bytes -/

/-- The character of a piece, if it has one. -/
def Piece.char? : Piece → Option Char
  | .char c => some c
  | .illFormed _ _ => none

/-- Without the ill-formed parts, bytes in their order are left. -/
theorem encode_chars_sublist (pieces : List Piece) :
    List.Sublist (encode (pieces.filterMap Piece.char?)) (pieces.flatMap Piece.bytes) := by
  induction pieces with
  | nil => exact .slnil
  | cons piece pieces ih =>
      rw [List.flatMap_cons]
      cases piece with
      | char c => exact ih.append_left (encodeChar c)
      | illFormed bytes flaw => exact ih.trans (List.sublist_append_right bytes _)

/-- What is read of bytes takes no more of them. -/
theorem length_encode_decodeLossy_le (bytes : Bytes) :
    (encode (decodeLossy bytes)).length ≤ bytes.length := by
  have hBytes := (encode_chars_sublist (pieces bytes)).length_le
  rwa [flatMap_pieces] at hBytes

end PoolLogin.Utf8
