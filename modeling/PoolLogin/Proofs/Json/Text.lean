import PoolLogin.Json.Reader
import PoolLogin.Json.Writer
import PoolLogin.Proofs.Text.Numeral

/-! Texts in JSON. Whatever of a character is escaped, it is read back as that
character. -/

namespace PoolLogin.Json

/-- One code point more in front of what is read. -/
def readAhead (c : Char) (read : WideText × Text) : WideText × Text := (.char c :: read.1, read.2)

theorem readTextFrom_append (skipped rest : Text) :
    readTextFrom skipped.length (skipped ++ rest) = readTextFrom 0 rest := by
  induction skipped with
  | nil => rfl
  | cons c skipped ih => exact ih

/-- An escape is read as the code point that it stands for. -/
theorem readTextFrom_escape (body : Text) {rest : Text} {c : Char}
    (h : readEscape (body ++ rest) = .ok (.char c, body.length)) :
    readTextFrom 0 ('\\' :: (body ++ rest)) = readAhead c <$> readTextFrom 0 rest := by
  rw [readTextFrom, if_neg (by decide), if_pos rfl, h]
  change (readTextFrom body.length (body ++ rest) >>= fun read =>
    pure (.char c :: read.1, read.2)) = _
  rw [readTextFrom_append]
  cases readTextFrom 0 rest <;> rfl

theorem readTextFrom_plain {c : Char} (hQuote : c ≠ '"') (hBackslash : c ≠ '\\')
    (hControl : ¬c.toNat < 0x20) (rest : Text) :
    readTextFrom 0 (c :: rest) = readAhead c <$> readTextFrom 0 rest := by
  rw [readTextFrom, if_neg hQuote, if_neg hBackslash, if_neg hControl]
  cases readTextFrom 0 rest <;> rfl

/-! ### Escapes -/

theorem ne_of_letterEscape? {c : Char} (h : letterEscape? c = none) : c ≠ '"' ∧ c ≠ '\\' := by
  constructor <;> rintro rfl <;> cases h

theorem letterEscape_of_letterEscape? {c letter : Char} (h : letterEscape? c = some letter) :
    letterEscape letter = some c ∧ letter ≠ 'u' := by
  simp only [letterEscape?] at h
  split_ifs at h with h1 h2 h3 h4 h5 h6
  · cases h
    rcases h1 with rfl | rfl <;> decide
  all_goals
    cases h
    subst c
    decide

theorem readTextFrom_letter {c letter : Char} (h : letterEscape? c = some letter) (rest : Text) :
    readTextFrom 0 (['\\', letter] ++ rest) = readAhead c <$> readTextFrom 0 rest := by
  obtain ⟨hLetter, hUnit⟩ := letterEscape_of_letterEscape? h
  apply readTextFrom_escape [letter]
  simp [readEscape, hLetter]

theorem unit?_digit : ∀ d < 16, unit?.digit? (Nat.digitChar d) = some d := by decide

/-- Four digits give the number that they were made from. -/
theorem hexadecimal_eq {n : Nat} (h : n < 0x10000) :
    ∃ a b c d, Numeral.hexadecimal 4 n = [a, b, c, d] ∧
      ∀ rest, unit? (a :: b :: c :: d :: rest) = some n := by
  obtain ⟨a, ha, b, hb, c, hc, d, hd, hn, hDigits⟩ := Numeral.hexadecimal_four h
  refine ⟨_, _, _, _, hDigits, ?_⟩
  intro rest
  simp only [unit?, unit?_digit a ha, unit?_digit b hb, unit?_digit c hc, unit?_digit d hd, hn]

/-- A unit that is no surrogate is a character of its own. -/
theorem readTextFrom_unit {c : Char} (h : c.toNat < 0x10000) {rest : Text} (hRest : rest ≠ []) :
    readTextFrom 0 (unitEscape c.toNat ++ rest) = readAhead c <$> readTextFrom 0 rest := by
  obtain ⟨w, x, y, z, hDigits, hUnit⟩ := hexadecimal_eq h
  have hValid : c.toNat < 0xD800 ∨ 0xDFFF < c.toNat ∧ c.toNat < 0x110000 := c.valid
  have hEmpty : ¬rest.isEmpty = true := by simpa using hRest
  rw [unitEscape, hDigits]
  apply readTextFrom_escape ['u', w, x, y, z]
  simp only [List.cons_append, List.nil_append, readEscape, List.drop, hUnit]
  rw [if_neg hEmpty, if_neg (by omega), CodePoint.ofNat_char]
  rfl

/-- Two units that are surrogates are one character. -/
theorem readTextFrom_units {c : Char} (h : 0x10000 ≤ c.toNat) {rest : Text} (hRest : rest ≠ []) :
    readTextFrom 0 (unitEscape (0xD800 + (c.toNat - 0x10000) / 0x400) ++
        unitEscape (0xDC00 + (c.toNat - 0x10000) % 0x400) ++ rest) =
      readAhead c <$> readTextFrom 0 rest := by
  have hValid : c.toNat < 0xD800 ∨ 0xDFFF < c.toNat ∧ c.toNat < 0x110000 := c.valid
  obtain ⟨high, hHigh⟩ : ∃ n, n = 0xD800 + (c.toNat - 0x10000) / 0x400 := ⟨_, rfl⟩
  obtain ⟨low, hLow⟩ : ∃ n, n = 0xDC00 + (c.toNat - 0x10000) % 0x400 := ⟨_, rfl⟩
  have hValue : 0x10000 + (high - 0xD800) * 0x400 + (low - 0xDC00) = c.toNat := by omega
  obtain ⟨w, x, y, z, hDigits, hUnit⟩ := hexadecimal_eq (n := high) (by omega)
  obtain ⟨w', x', y', z', hDigits', hUnit'⟩ := hexadecimal_eq (n := low) (by omega)
  have hEmpty : ¬rest.isEmpty = true := by simpa using hRest
  rw [← hHigh, ← hLow, unitEscape, unitEscape, hDigits, hDigits']
  apply readTextFrom_escape ['u', w, x, y, z, '\\', 'u', w', x', y', z']
  simp only [List.cons_append, List.nil_append, readEscape, partner?, List.drop, hUnit, hUnit']
  rw [if_neg (by simp), if_pos (by omega), if_neg hEmpty]
  simp only [bind, Except.bind]
  rw [if_pos (by omega), hValue, CodePoint.ofNat_char]
  rfl

/-! ### Styles -/

/-- White space of JSON and nothing else. -/
def IsSpaces (text : Text) : Prop := ∀ c ∈ text, isSpace c

/-- What is written in a style can be read: escapes stand for their
characters, and there is nothing but white space around the signs. -/
structure Style.Legible (style : Style) : Prop where
  escape : ∀ (c : Char) (rest : Text), rest ≠ [] →
    readTextFrom 0 (style.escape (.char c) ++ rest) = readAhead c <$> readTextFrom 0 rest
  comma : ∃ spaces, style.comma = ',' :: spaces ∧ IsSpaces spaces
  colon : ∃ spaces, style.colon = ':' :: spaces ∧ IsSpaces spaces
  newline : ∀ depth, IsSpaces (style.newline depth)

theorem readTextFrom_escapeControls (c : Char) (rest : Text) (hRest : rest ≠ []) :
    readTextFrom 0 (escapeControls (.char c) ++ rest) = readAhead c <$> readTextFrom 0 rest := by
  simp only [escapeControls]
  cases hLetter : letterEscape? c with
  | some letter => exact readTextFrom_letter hLetter rest
  | none =>
      simp only
      split_ifs with hControl
      · exact readTextFrom_unit (by omega) hRest
      · obtain ⟨hQuote, hBackslash⟩ := ne_of_letterEscape? hLetter
        exact readTextFrom_plain hQuote hBackslash hControl rest

theorem readTextFrom_escapeAscii (c : Char) (rest : Text) (hRest : rest ≠ []) :
    readTextFrom 0 (escapeAscii (.char c) ++ rest) = readAhead c <$> readTextFrom 0 rest := by
  simp only [escapeAscii]
  cases hLetter : letterEscape? c with
  | some letter => exact readTextFrom_letter hLetter rest
  | none =>
      simp only
      split_ifs with hPrintable hUnit
      · obtain ⟨hQuote, hBackslash⟩ := ne_of_letterEscape? hLetter
        exact readTextFrom_plain hQuote hBackslash (by omega) rest
      · exact readTextFrom_unit hUnit hRest
      · exact readTextFrom_units (by omega) hRest

theorem legible_ascii : Style.ascii.Legible where
  escape := readTextFrom_escapeAscii
  comma := ⟨[' '], rfl, by simp [IsSpaces, isSpace]⟩
  colon := ⟨[' '], rfl, by simp [IsSpaces, isSpace]⟩
  newline _ := by simp [IsSpaces, Style.ascii]

theorem legible_indented : Style.indented.Legible where
  escape := readTextFrom_escapeControls
  comma := ⟨[], rfl, by simp [IsSpaces]⟩
  colon := ⟨[' '], rfl, by simp [IsSpaces, isSpace]⟩
  newline _ := by simp [IsSpaces, Style.indented, isSpace]

/-! ### Texts -/

section

variable {style : Style} (hStyle : style.Legible)

include hStyle

theorem readTextFrom_flatMap (text rest : Text) :
    readTextFrom 0 ((WideText.ofText text).flatMap style.escape ++ '"' :: rest) =
      .ok (.ofText text, rest) := by
  induction text with
  | nil => rfl
  | cons c text ih =>
      have hRest : (WideText.ofText text).flatMap style.escape ++ '"' :: rest ≠ [] := by simp
      rw [WideText.ofText, List.map_cons, List.flatMap_cons, List.append_assoc,
        ← WideText.ofText, hStyle.escape c _ hRest, ih]
      rfl

/-- A text that is written is read, whatever stands behind it. -/
theorem readText_writeText (text rest : Text) :
    readText (writeText style (.ofText text) ++ rest) = .ok (.ofText text, rest) := by
  have hRead := readTextFrom_flatMap hStyle text rest
  rw [readText, writeText, List.cons_append, List.tail_cons, List.append_assoc,
    List.singleton_append, hRead]

end

end PoolLogin.Json
