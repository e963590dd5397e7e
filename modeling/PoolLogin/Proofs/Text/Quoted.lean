import PoolLogin.Proofs.Text.Numeral
import PoolLogin.Text.Lines
import PoolLogin.Text.Quoted

/-! Quoted texts. What stands between quotes is read again code point by code
point, so different texts are quoted differently; and all of it is printable. -/

namespace PoolLogin.Text

/-! ### Reading between quotes -/

/-- A code point from as many digits of its number. -/
def readNumber (width : Nat) (rest : Text) : CodePoint × Text :=
  (.ofNat (Numeral.value 16 ((rest.take width).filterMap Numeral.asciiDigit?)), rest.drop width)

/-- What a backslash and the character behind it stand for. -/
def readEscape (c : Char) (rest : Text) : CodePoint × Text :=
  match c with
  | 'n' => (.char '\n', rest)
  | 'r' => (.char '\r', rest)
  | 't' => (.char '\t', rest)
  | 'x' => readNumber 2 rest
  | 'u' => readNumber 4 rest
  | 'U' => readNumber 8 rest
  | c => (.char c, rest)

/-- The next code point of a text between quotes and what follows it, unless the text ends. -/
def readCode (quote : Char) : Text → Option (CodePoint × Text)
  | [] => none
  | '\\' :: c :: rest => some (readEscape c rest)
  | c :: rest => if c = quote then none else some (.char c, rest)

/-- Either of the two quotes. -/
def IsQuote (c : Char) : Prop := c = '\x27' ∨ c = '"'

theorem IsQuote.isPrintable {c : Char} (h : IsQuote c) : isPrintable c := by
  rcases h with rfl | rfl <;> rfl

theorem isQuote_quoteFor (text : WideText) : IsQuote (quoteFor text) := by
  rw [quoteFor]
  split_ifs
  · exact Or.inr rfl
  · exact Or.inl rfl

theorem readCode_of_ne {quote c : Char} (hEscape : c ≠ '\\') (hQuote : c ≠ quote) (rest : Text) :
    readCode quote (c :: rest) = some (.char c, rest) := by
  rw [readCode, if_neg hQuote]
  intro _ _ hc
  exact absurd hc hEscape

theorem readNumber_hexadecimal {width : Nat} (hWidth : 0 < width) {c : CodePoint}
    (h : c.toNat < 16 ^ width) (rest : Text) :
    readNumber width (Numeral.hexadecimal width c.toNat ++ rest) = (c, rest) := by
  obtain ⟨digits, hLength, hSmall, hValue, hDigits⟩ := Numeral.hexadecimal_digits hWidth h
  have hWidth : (digits.map Nat.digitChar).length = width := by rw [List.length_map, hLength]
  rw [readNumber, hDigits, List.take_left' hWidth, List.drop_left' hWidth,
    Numeral.filterMap_digitChar hSmall, hValue, CodePoint.ofNat_toNat]

/-- An escape is a letter and as many digits as it stands for. -/
theorem numericEscape_eq {n : Nat} (h : n < 0x110000) :
    ∃ letter width, (∀ rest, readEscape letter rest = readNumber width rest) ∧
      isPrintable letter ∧ 0 < width ∧ n < 16 ^ width ∧
      numericEscape n = '\\' :: letter :: Numeral.hexadecimal width n := by
  rw [numericEscape]
  split_ifs with hTwo hFour
  · exact ⟨'x', 2, fun _ => rfl, rfl, by decide, hTwo, rfl⟩
  · exact ⟨'u', 4, fun _ => rfl, rfl, by decide, hFour, rfl⟩
  · exact ⟨'U', 8, fun _ => rfl, rfl, by decide, by omega, rfl⟩

variable {quote : Char}

theorem readCode_numericEscape (c : CodePoint) (rest : Text) :
    readCode quote (numericEscape c.toNat ++ rest) = some (c, rest) := by
  obtain ⟨letter, width, hLetter, _, hWidth, hBound, hEscape⟩ := numericEscape_eq c.toNat_lt
  rw [hEscape, List.cons_append, List.cons_append, readCode, hLetter,
    readNumber_hexadecimal hWidth hBound]

/-- Every code point is read as it is quoted, whatever stands behind it. -/
theorem readCode_quoteCode (hQuote : IsQuote quote) (c : CodePoint) (rest : Text) :
    readCode quote (quoteCode quote c ++ rest) = some (c, rest) := by
  cases c with
  | surrogate n => exact readCode_numericEscape (.surrogate n) rest
  | char c =>
      rw [quoteCode, quoteChar]
      split_ifs with hPlain hNewline hReturn hTab hPrintable
      · rcases hPlain with rfl | rfl
        · rcases hQuote with rfl | rfl <;> rfl
        · rfl
      · rw [hNewline]
        rfl
      · rw [hReturn]
        rfl
      · rw [hTab]
        rfl
      · rw [not_or] at hPlain
        exact readCode_of_ne hPlain.2 hPlain.1 rest
      · exact readCode_numericEscape (.char c) rest

/-- Where a text ends, its quote is no code point. -/
theorem readCode_flatMap_nil (hQuote : IsQuote quote) :
    readCode quote ([].flatMap (quoteCode quote) ++ [quote]) = none := by
  rcases hQuote with rfl | rfl <;> rfl

theorem readCode_flatMap_cons (hQuote : IsQuote quote) (c : CodePoint) (text : WideText) :
    readCode quote ((c :: text).flatMap (quoteCode quote) ++ [quote]) =
      some (c, text.flatMap (quoteCode quote) ++ [quote]) := by
  rw [List.flatMap_cons, List.append_assoc, readCode_quoteCode hQuote]

/-! ### Different texts -/

theorem eq_of_flatMap_quoteCode (hQuote : IsQuote quote) {text other : WideText}
    (h : text.flatMap (quoteCode quote) ++ [quote] = other.flatMap (quoteCode quote) ++ [quote]) :
    text = other := by
  have hRead := congrArg (readCode quote) h
  induction text generalizing other with
  | nil =>
      cases other with
      | nil => rfl
      | cons d other =>
          rw [readCode_flatMap_nil hQuote, readCode_flatMap_cons hQuote] at hRead
          cases hRead
  | cons c text ih =>
      cases other with
      | nil =>
          rw [readCode_flatMap_nil hQuote, readCode_flatMap_cons hQuote] at hRead
          cases hRead
      | cons d other =>
          rw [readCode_flatMap_cons hQuote, readCode_flatMap_cons hQuote] at hRead
          obtain ⟨rfl, hRest⟩ := Prod.mk.inj (Option.some.inj hRead)
          rw [ih hRest (congrArg (readCode quote) hRest)]

theorem quotedWide_injective : Function.Injective quotedWide := by
  intro text other h
  obtain ⟨hQuote, hRest⟩ := List.cons.inj h
  rw [hQuote] at hRest
  exact eq_of_flatMap_quoteCode (isQuote_quoteFor other) hRest

/-- The word for an absent text starts with no quote. -/
theorem quotedOption_injective : Function.Injective quotedOption := by
  have hAbsent : ∀ text, quotedOption none ≠ quotedWide text := by
    intro text h
    have hQuote := isQuote_quoteFor text
    rw [← (List.cons.inj h).1] at hQuote
    rcases hQuote with hSingle | hDouble
    · cases hSingle
    · cases hDouble
  intro text other h
  cases text with
  | none =>
      cases other with
      | none => rfl
      | some other => exact absurd h (hAbsent other)
  | some text =>
      cases other with
      | none => exact absurd h.symm (hAbsent text)
      | some other => rw [quotedWide_injective h]

/-! ### What is seen -/

/-- A character that neither controls a terminal nor ends a line. -/
structure IsVisible (c : Char) : Prop where
  noControl : 0x20 ≤ c.toNat ∧ ¬(0x7F ≤ c.toNat ∧ c.toNat < 0xA0)
  noBreak : isLineBreak c = false

/-- No character is printable from the delete character up to the no-break space. -/
theorem changesBefore_unprintableChanges {n : Nat} (hLow : 0x7F ≤ n) (hHigh : n < 0xA1) :
    changesBefore unprintableChanges n = true := by
  obtain ⟨rest, hChanges⟩ : ∃ rest, unprintableChanges = 0x7F :: 0xA1 :: rest := ⟨_, rfl⟩
  rw [changesBefore, hChanges, List.takeWhile_cons_of_pos (by simpa using hLow),
    List.takeWhile_cons_of_neg (by simpa using hHigh)]
  rfl

theorem isVisible_of_isPrintable {c : Char} (h : isPrintable c) : IsVisible c := by
  have hBreaks : ∀ n, n = 0x2028 ∨ n = 0x2029 → changesBefore unprintableChanges n = true := by
    rintro n (rfl | rfl) <;> decide +kernel
  simp only [isPrintable] at h
  have hLow : 0x20 ≤ c.toNat := by
    split_ifs at h with hAscii
    · exact of_decide_eq_true h
    · omega
  have hChanges : 0x7F ≤ c.toNat → changesBefore unprintableChanges c.toNat = false := by
    intro hHigh
    rwa [if_neg (by omega), Bool.not_eq_true'] at h
  have hHigh : ¬(0x7F ≤ c.toNat ∧ c.toNat < 0xA1) := by
    rintro ⟨hFirst, hLast⟩
    rw [changesBefore_unprintableChanges hFirst hLast] at hChanges
    cases hChanges hFirst
  have hBreak : ¬(c.toNat = 0x2028 ∨ c.toNat = 0x2029) := by
    intro hBreak
    rw [hBreaks _ hBreak] at hChanges
    cases hChanges (by omega)
  refine ⟨⟨hLow, by omega⟩, ?_⟩
  rw [isLineBreak, Bool.eq_false_iff]
  simp only [ne_eq, Bool.or_eq_true, Bool.and_eq_true, decide_eq_true_eq, beq_iff_eq]
  omega

theorem isPrintable_of_mem_numericEscape {n : Nat} (h : n < 0x110000) :
    ∀ c ∈ numericEscape n, isPrintable c := by
  have hDigit : ∀ d < 16, isPrintable (Nat.digitChar d) := by decide
  obtain ⟨letter, width, _, hLetter, hWidth, hBound, hEscape⟩ := numericEscape_eq h
  obtain ⟨digits, _, hSmall, _, hDigits⟩ := Numeral.hexadecimal_digits hWidth hBound
  rw [hEscape, hDigits, List.forall_mem_cons, List.forall_mem_cons]
  refine ⟨rfl, hLetter, ?_⟩
  intro c hc
  obtain ⟨d, hd, rfl⟩ := List.mem_map.mp hc
  exact hDigit d (hSmall d hd)

theorem isPrintable_of_mem_quoteCode (hQuote : IsQuote quote) (c : CodePoint) :
    ∀ d ∈ quoteCode quote c, isPrintable d := by
  cases c with
  | surrogate n => exact isPrintable_of_mem_numericEscape (CodePoint.surrogate n).toNat_lt
  | char c =>
      rw [quoteCode, quoteChar]
      split_ifs with hPlain hNewline hReturn hTab hPrintable
      · rcases hPlain with rfl | rfl
        · rcases hQuote with rfl | rfl <;> exact List.all_eq_true.mp rfl
        · exact List.all_eq_true.mp rfl
      · exact List.all_eq_true.mp rfl
      · exact List.all_eq_true.mp rfl
      · exact List.all_eq_true.mp rfl
      · exact List.forall_mem_singleton.mpr hPrintable
      · exact isPrintable_of_mem_numericEscape (CodePoint.char c).toNat_lt

/-- Quoted or absent, all of a text is seen. -/
theorem isVisible_of_mem_quotedOption (text : Option WideText) :
    ∀ c ∈ quotedOption text, IsVisible c := by
  intro c hc
  apply isVisible_of_isPrintable
  cases text with
  | none =>
      have hAll : (quotedOption none).all isPrintable = true := rfl
      exact List.all_eq_true.mp hAll c hc
  | some text =>
      have hQuote := isQuote_quoteFor text
      rcases List.mem_cons.mp hc with rfl | hc
      · exact hQuote.isPrintable
      rcases List.mem_append.mp hc with hc | hc
      · obtain ⟨code, _, hc⟩ := List.mem_flatMap.mp hc
        exact isPrintable_of_mem_quoteCode hQuote code c hc
      · rw [List.mem_singleton.mp hc]
        exact hQuote.isPrintable

end PoolLogin.Text
