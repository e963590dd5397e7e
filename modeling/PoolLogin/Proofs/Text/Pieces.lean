import PoolLogin.Proofs.Text.Utf8

/-! The pieces that bytes are read as. They are the bytes cut up and nothing
else, so a text is read without a fault only from the bytes that it is written
as. -/

namespace PoolLogin.Utf8

/-- The bytes of a piece. -/
def Piece.bytes : Piece → Bytes
  | .char c => encodeChar c
  | .illFormed bytes _ => bytes

/-- The bytes that have been read of the character that goes on. -/
def State.seen : State → Bytes
  | .idle => []
  | .owing _ _ _ _ seen => seen

/-! ### Characters by their bytes -/

theorem toNat_ofNat {n : Nat} (h : n.isValidChar) : (Char.ofNat n).toNat = n := by
  rw [Char.ofNat, dif_pos h]
  rfl

section

variable {n m : Nat} (hByte : m < 64)

include hByte

theorem encodeChar_two (hLow : 2 ≤ n) (hHigh : n < 0x20) :
    encodeChar (Char.ofNat (n * 64 + m)) = [UInt8.ofNat (0xC0 + n), UInt8.ofNat (0x80 + m)] := by
  have hValid : (n * 64 + m).isValidChar := Or.inl (by omega)
  have hDiv : (n * 64 + m) / 64 = n := by omega
  have hMod : (n * 64 + m) % 64 = m := by omega
  simp only [encodeChar, toNat_ofNat hValid, hDiv, hMod]
  rw [if_neg (by omega), if_pos (by omega)]

theorem encodeChar_three (hLow : 0x20 ≤ n) (hHigh : n < 0x400) (hGap : n < 0x360 ∨ 0x380 ≤ n) :
    encodeChar (Char.ofNat (n * 64 + m)) =
      [UInt8.ofNat (0xE0 + n / 64), UInt8.ofNat (0x80 + n % 64), UInt8.ofNat (0x80 + m)] := by
  have hValid : (n * 64 + m).isValidChar := by
    rcases hGap with hBelow | hAbove
    · exact Or.inl (by omega)
    · exact Or.inr ⟨by omega, by omega⟩
  have hFirst : (n * 64 + m) / 4096 = n / 64 := by omega
  have hDiv : (n * 64 + m) / 64 = n := by omega
  have hMod : (n * 64 + m) % 64 = m := by omega
  simp only [encodeChar, toNat_ofNat hValid, hFirst, hDiv, hMod]
  rw [if_neg (by omega), if_neg (by omega), if_pos (by omega)]

theorem encodeChar_four (hLow : 0x400 ≤ n) (hHigh : n < 0x4400) :
    encodeChar (Char.ofNat (n * 64 + m)) =
      [UInt8.ofNat (0xF0 + n / 4096), UInt8.ofNat (0x80 + n / 64 % 64),
        UInt8.ofNat (0x80 + n % 64), UInt8.ofNat (0x80 + m)] := by
  have hValid : (n * 64 + m).isValidChar := Or.inr ⟨by omega, by omega⟩
  have hFirst : (n * 64 + m) / 262144 = n / 4096 := by omega
  have hSecond : (n * 64 + m) / 4096 = n / 64 := by omega
  have hDiv : (n * 64 + m) / 64 = n := by omega
  have hMod : (n * 64 + m) % 64 = m := by omega
  simp only [encodeChar, toNat_ofNat hValid, hFirst, hSecond, hDiv, hMod]
  rw [if_neg (by omega), if_neg (by omega), if_neg (by omega)]

end

/-! ### Bytes one after another -/

/-- A state that some bytes lead to. The bytes that have been seen of a
character spell what is known of its number, and the next one is held to the
range that keeps the number from being too small, a surrogate or too large. -/
inductive State.Reached : State → Prop where
  | idle : Reached .idle
  | lastOfTwo {n : Nat} (hLow : 2 ≤ n) (hHigh : n < 0x20) :
      Reached (.owing 1 0x80 0xBF n [UInt8.ofNat (0xC0 + n)])
  | secondOfThree {n : Nat} (hHigh : n < 0x10) :
      Reached (.owing 2 (if n = 0 then 0xA0 else 0x80) (if n = 13 then 0x9F else 0xBF) n
        [UInt8.ofNat (0xE0 + n)])
  | lastOfThree {n : Nat} (hLow : 0x20 ≤ n) (hHigh : n < 0x400)
      (hGap : n < 0x360 ∨ 0x380 ≤ n) :
      Reached (.owing 1 0x80 0xBF n [UInt8.ofNat (0xE0 + n / 64), UInt8.ofNat (0x80 + n % 64)])
  | secondOfFour {n : Nat} (hHigh : n < 5) :
      Reached (.owing 3 (if n = 0 then 0x90 else 0x80) (if n = 4 then 0x8F else 0xBF) n
        [UInt8.ofNat (0xF0 + n)])
  | thirdOfFour {n : Nat} (hLow : 0x10 ≤ n) (hHigh : n < 0x110) :
      Reached (.owing 2 0x80 0xBF n [UInt8.ofNat (0xF0 + n / 64), UInt8.ofNat (0x80 + n % 64)])
  | lastOfFour {n : Nat} (hLow : 0x400 ≤ n) (hHigh : n < 0x4400) :
      Reached (.owing 1 0x80 0xBF n [UInt8.ofNat (0xF0 + n / 4096),
        UInt8.ofNat (0x80 + n / 64 % 64), UInt8.ofNat (0x80 + n % 64)])

/-- The pieces that a byte completes and what goes on behind them are the
bytes of the character that went on, and this one. -/
def Keeps (bytes : Bytes) (read : List Piece × State) : Prop :=
  read.2.Reached ∧ read.1.flatMap Piece.bytes ++ read.2.seen = bytes

/-- The first byte of a character is the whole of it, begins it, or is a piece of its own. -/
theorem keeps_start (b : UInt8) : Keeps [b] (start b) := by
  obtain ⟨n, hn, rfl⟩ : ∃ n < 256, b = UInt8.ofNat n :=
    ⟨b.toNat, b.toNat_lt, UInt8.ofNat_toNat.symm⟩
  rcases Nat.lt_or_ge n 0x80 with hOne | hLong
  · have hValid : n.isValidChar := Or.inl (by omega)
    rw [start]
    simp only [byte_toNat hn, if_pos hOne]
    refine ⟨.idle, ?_⟩
    simp [Piece.bytes, State.seen, encodeChar, toNat_ofNat hValid, hOne]
  rcases Nat.lt_or_ge n 0xE0 with hTwo | hLong
  · rcases Nat.lt_or_ge n 0xC2 with hNone | hTwo
    · rw [start]
      simp only [byte_toNat hn, if_neg (show ¬n < 0x80 by omega), if_pos hNone]
      exact ⟨.idle, rfl⟩
    · obtain ⟨k, rfl⟩ := Nat.exists_eq_add_of_le (show 0xC0 ≤ n by omega)
      rw [start_two k (by omega) (by omega)]
      exact ⟨.lastOfTwo (by omega) (by omega), rfl⟩
  rcases Nat.lt_or_ge n 0xF0 with hThree | hLong
  · obtain ⟨k, rfl⟩ := Nat.exists_eq_add_of_le hLong
    rw [start_three k (by omega)]
    exact ⟨.secondOfThree (by omega), rfl⟩
  rcases Nat.lt_or_ge n 0xF5 with hFour | hNone
  · obtain ⟨k, rfl⟩ := Nat.exists_eq_add_of_le hLong
    rw [start_four k (by omega)]
    exact ⟨.secondOfFour (by omega), rfl⟩
  · rw [start]
    simp only [byte_toNat hn, if_neg (show ¬n < 0x80 by omega), if_neg (show ¬n < 0xC2 by omega),
      if_neg (show ¬n < 0xE0 by omega), if_neg (show ¬n < 0xF0 by omega),
      if_neg (show ¬n < 0xF5 by omega)]
    exact ⟨.idle, rfl⟩

section

variable {owed low high value : Nat} {seen : Bytes} {b : UInt8}

theorem keeps_step_of_out (hOut : ¬(low ≤ b.toNat ∧ b.toNat ≤ high)) :
    Keeps (seen ++ [b]) (step (.owing owed low high value seen) b) := by
  obtain ⟨hReached, hBytes⟩ := keeps_start b
  rw [step, if_neg hOut]
  refine ⟨hReached, ?_⟩
  rw [List.flatMap_cons, List.append_assoc, hBytes]
  rfl

theorem keeps_step_last (hChar : low ≤ b.toNat → b.toNat ≤ high →
      encodeChar (Char.ofNat (value * 64 + (b.toNat - 0x80))) = seen ++ [b]) :
    Keeps (seen ++ [b]) (step (.owing 1 low high value seen) b) := by
  by_cases hIn : low ≤ b.toNat ∧ b.toNat ≤ high
  · rw [step, if_pos hIn]
    refine ⟨.idle, ?_⟩
    rw [← hChar hIn.1 hIn.2]
    simp [Piece.bytes, State.seen]
  · exact keeps_step_of_out hIn

theorem keeps_step_next (hOwed : ¬owed ≤ 1) (hReached : low ≤ b.toNat → b.toNat ≤ high →
      State.Reached (.owing (owed - 1) 0x80 0xBF (value * 64 + (b.toNat - 0x80))
        (seen ++ [b]))) :
    Keeps (seen ++ [b]) (step (.owing owed low high value seen) b) := by
  by_cases hIn : low ≤ b.toNat ∧ b.toNat ≤ high
  · rw [step, if_pos hIn]
    simp only [if_neg hOwed]
    exact ⟨hReached hIn.1 hIn.2, rfl⟩
  · exact keeps_step_of_out hIn

/-- A byte in the range of those that follow, by what it adds to a number. -/
theorem ofNat_low (h : 0x80 ≤ b.toNat) : UInt8.ofNat (0x80 + (b.toNat - 0x80)) = b := by
  rw [Nat.add_sub_cancel' h, UInt8.ofNat_toNat]

end

/-- No byte gets lost, whatever the bytes in front of it. -/
theorem keeps_step {state : State} (h : state.Reached) (b : UInt8) :
    Keeps (state.seen ++ [b]) (step state b) := by
  have hDiv : ∀ n m, m < 64 → (n * 64 + m) / 64 = n := fun n m _ => by omega
  have hMod : ∀ n m, m < 64 → (n * 64 + m) % 64 = m := fun n m _ => by omega
  cases h with
  | idle => exact keeps_start b
  | @lastOfTwo n hLow hHigh =>
      apply keeps_step_last
      intro hFirst hLast
      rw [encodeChar_two (by omega) hLow hHigh, ofNat_low hFirst]
      rfl
  | @secondOfThree n hHigh =>
      apply keeps_step_next (by decide)
      intro hFirst hLast
      obtain ⟨hLow, hByte, hSmall, hGap⟩ : 0x80 ≤ b.toNat ∧ b.toNat - 0x80 < 64 ∧
          (n = 0 → 0xA0 ≤ b.toNat) ∧ (n = 13 → b.toNat ≤ 0x9F) := by
        split_ifs at hFirst hLast <;> omega
      have hReached := State.Reached.lastOfThree (n := n * 64 + (b.toNat - 0x80)) (by omega)
        (by omega) (by omega)
      rwa [hDiv n _ hByte, hMod n _ hByte, ofNat_low hLow] at hReached
  | @lastOfThree n hLow hHigh hGap =>
      apply keeps_step_last
      intro hFirst hLast
      rw [encodeChar_three (by omega) hLow hHigh hGap, ofNat_low hFirst]
      rfl
  | @secondOfFour n hHigh =>
      apply keeps_step_next (by decide)
      intro hFirst hLast
      obtain ⟨hLow, hByte, hSmall, hLarge⟩ : 0x80 ≤ b.toNat ∧ b.toNat - 0x80 < 64 ∧
          (n = 0 → 0x90 ≤ b.toNat) ∧ (n = 4 → b.toNat ≤ 0x8F) := by
        split_ifs at hFirst hLast <;> omega
      have hReached := State.Reached.thirdOfFour (n := n * 64 + (b.toNat - 0x80)) (by omega)
        (by omega)
      rwa [hDiv n _ hByte, hMod n _ hByte, ofNat_low hLow] at hReached
  | @thirdOfFour n hLow hHigh =>
      apply keeps_step_next (by decide)
      intro hFirst hLast
      have hByte : b.toNat - 0x80 < 64 := by omega
      have hLead : (n * 64 + (b.toNat - 0x80)) / 4096 = n / 64 := by omega
      have hReached := State.Reached.lastOfFour (n := n * 64 + (b.toNat - 0x80)) (by omega)
        (by omega)
      rwa [hDiv n _ hByte, hMod n _ hByte, hLead, ofNat_low hFirst] at hReached
  | @lastOfFour n hLow hHigh =>
      apply keeps_step_last
      intro hFirst hLast
      rw [encodeChar_four (by omega) hLow hHigh, ofNat_low hFirst]
      rfl

theorem flatMap_piecesFrom {state : State} (h : state.Reached) (bytes : Bytes) :
    (piecesFrom state bytes).flatMap Piece.bytes = state.seen ++ bytes := by
  induction bytes generalizing state with
  | nil =>
      cases state with
      | idle => rfl
      | owing owed low high value seen => simp [piecesFrom, finish, Piece.bytes, State.seen]
  | cons b bytes ih =>
      obtain ⟨hReached, hBytes⟩ := keeps_step h b
      rw [piecesFrom, List.flatMap_append, ih hReached, ← List.append_assoc, hBytes,
        List.append_assoc, List.singleton_append]

/-- Pieces are the bytes and nothing else. -/
theorem flatMap_pieces (bytes : Bytes) : (pieces bytes).flatMap Piece.bytes = bytes :=
  flatMap_piecesFrom .idle bytes

/-! ### Strict reading -/

theorem eq_map_of_textOf {position : Nat} {pieces : List Piece} {text : Text}
    (h : textOf position pieces = .ok text) : pieces = text.map .char := by
  induction pieces generalizing position text with
  | nil =>
      cases h
      rfl
  | cons piece pieces ih =>
      cases piece with
      | illFormed bytes flaw => cases h
      | char c =>
          rw [textOf] at h
          cases hRest : textOf (position + (encodeChar c).length) pieces with
          | error fault =>
              rw [hRest] at h
              cases h
          | ok rest =>
              rw [hRest] at h
              cases h
              rw [ih hRest, List.map_cons]

/-- Bytes are read as a text exactly if they are the bytes of that text. -/
theorem decode_eq_ok_iff {bytes : Bytes} {text : Text} :
    decode bytes = .ok text ↔ bytes = encode text := by
  constructor
  · intro h
    rw [← flatMap_pieces bytes, eq_map_of_textOf h, List.flatMap_map]
    rfl
  · rintro rfl
    exact decode_encode text

end PoolLogin.Utf8
