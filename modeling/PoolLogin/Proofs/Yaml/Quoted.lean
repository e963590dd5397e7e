import PoolLogin.Proofs.Json.Characters
import PoolLogin.Yaml.Token.Quoted

/-! JSON texts as YAML scalars. YAML knows all escapes that JSON is written with,
and what is not escaped stands for itself as long as no line ends in it. -/

namespace PoolLogin.Yaml.Quoted

open Json (escapeControls unitEscape)

/-- What is read, behind code points that take some characters. -/
def ahead (chars : WideText) (size : Nat) (read : WideText × Nat) : WideText × Nat :=
  (chars ++ read.1, read.2 + size)

theorem double_append (skipped rest : Text) :
    double skipped.length (skipped ++ rest) = ahead [] skipped.length <$> double 0 rest := by
  induction skipped with
  | nil =>
      change double 0 rest = (fun read => (read.1, read.2)) <$> double 0 rest
      cases double 0 rest <;> rfl
  | cons c skipped ih =>
      change (double skipped.length (skipped ++ rest) >>= fun read => pure (read.1, read.2 + 1)) = _
      rw [ih]
      cases double 0 rest <;> rfl

/-! ### Characters as they are -/

theorem double_plain {c : Char} (hQuote : c ≠ '"') (hBackslash : c ≠ '\\') (hGap : isGap c = false)
    (rest : Text) : double 0 (c :: rest) = ahead [.char c] 1 <$> double 0 rest := by
  rw [double, if_neg hQuote, if_neg hBackslash, hGap, if_neg Bool.false_ne_true]
  cases double 0 rest <;> rfl

/-- A text that goes on in the same line after its blanks. -/
def StaysInLine (text : Text) : Prop :=
  ∃ blanks c rest, text = blanks ++ c :: rest ∧ (∀ b ∈ blanks, b = ' ') ∧ isGap c = false

/-- A run of blanks is read at once. -/
theorem double_blanks {blanks : Text} (hBlanks : ∀ b ∈ blanks, b = ' ') {c : Char}
    (hc : isGap c = false) (rest : Text) :
    double 0 (blanks ++ c :: rest) =
      ahead (.ofText blanks) blanks.length <$> double 0 (c :: rest) := by
  cases blanks with
  | nil => exact double_append [] (c :: rest)
  | cons b blanks =>
      obtain ⟨rfl, hRest⟩ := List.forall_mem_cons.mp hBlanks
      have hNext : (c == ' ' || c == '\t') = false ∧ isBreak c = false := by
        simpa [isGap] using hc
      have hRun : (' ' :: (blanks ++ c :: rest)).takeWhile (fun c => c == ' ' || c == '\t') =
          ' ' :: blanks := by
        rw [List.takeWhile_cons_of_pos rfl, List.takeWhile_append_of_pos,
          List.takeWhile_cons_of_neg (by simp [hNext.1]), List.append_nil]
        intro b hb
        rw [hRest b hb]
        rfl
      have hGap : gap (' ' :: (blanks ++ c :: rest)) =
          .ok (' ' :: blanks, blanks.length + 1) := by
        have hDrop : (' ' :: (blanks ++ c :: rest)).drop (' ' :: blanks).length = c :: rest :=
          List.drop_left' rfl
        simp only [gap, hRun, hDrop, hNext.2]
        rfl
      rw [List.cons_append, double, if_neg (by decide), if_neg (by decide),
        if_pos (show isGap ' ' = true from rfl), hGap]
      change (double blanks.length (blanks ++ c :: rest) >>= fun read =>
        pure (.ofText (' ' :: blanks) ++ read.1, read.2 + 1)) = _
      rw [double_append]
      cases double 0 (c :: rest) <;> rfl

/-- A blank in front of others is read like the first of them. -/
theorem double_blank {rest : Text} (h : StaysInLine rest) :
    double 0 (' ' :: rest) = ahead [.char ' '] 1 <$> double 0 rest := by
  obtain ⟨blanks, c, rest, rfl, hBlanks, hc⟩ := h
  have hMore : ∀ b ∈ ' ' :: blanks, b = ' ' := List.forall_mem_cons.mpr ⟨rfl, hBlanks⟩
  have hAll := double_blanks hMore hc rest
  rw [List.cons_append] at hAll
  rw [hAll, double_blanks hBlanks hc]
  cases double 0 (c :: rest) <;> rfl

/-! ### Escapes -/

theorem double_escape (body : Text) {rest : Text} {c : Char}
    (h : escape (body ++ rest) = .ok ([.char c], body.length)) :
    double 0 ('\\' :: (body ++ rest)) = ahead [.char c] (body.length + 1) <$> double 0 rest := by
  rw [double, if_neg (by decide), if_pos rfl, h]
  change (double body.length (body ++ rest) >>= fun read =>
    pure ([.char c] ++ read.1, read.2 + 1)) = _
  rw [double_append]
  cases double 0 rest <;> rfl

/-- A letter that stands for a character in JSON stands for it in YAML. -/
theorem letterEscape?_eq {c letter : Char} (h : Json.letterEscape? c = some letter) :
    letterEscape? letter = some c := by
  simp only [Json.letterEscape?] at h
  split_ifs at h with h1
  · cases h
    rcases h1 with rfl | rfl <;> rfl
  all_goals
    cases h
    subst c
    rfl

theorem hexDigit?_digitChar : ∀ d < 16, hexDigit? (Nat.digitChar d) = some d := by decide

/-- Four digits give the number that they were made from. -/
theorem hexNumber?_hexadecimal {n : Nat} (h : n < 0x10000) (rest : Text) :
    hexNumber? 4 (Numeral.hexadecimal 4 n ++ rest) = some n := by
  obtain ⟨a, ha, b, hb, c, hc, d, hd, hn, hDigits⟩ := Numeral.hexadecimal_four h
  rw [hDigits, hn]
  simp [hexNumber?, hexDigit?_digitChar a ha, hexDigit?_digitChar b hb, hexDigit?_digitChar c hc,
    hexDigit?_digitChar d hd]

theorem double_unit {c : Char} (h : c.toNat < 0x10000) (rest : Text) :
    double 0 (unitEscape c.toNat ++ rest) =
      ahead [.char c] (unitEscape c.toNat).length <$> double 0 rest := by
  have hLength : (Numeral.hexadecimal 4 c.toNat).length = 4 := by
    obtain ⟨_, _, _, _, hDigits, _⟩ := Json.hexadecimal_eq h
    rw [hDigits]
    rfl
  apply double_escape ('u' :: Numeral.hexadecimal 4 c.toNat)
  have hNoLetter : letterEscape? 'u' = none := rfl
  have hFour : escapeDigits? 'u' = some 4 := rfl
  rw [List.cons_append, List.length_cons, hLength]
  simp only [escape, hNoLetter, hFour, hexNumber?_hexadecimal h, codePoint,
    if_pos (show c.toNat < 0x110000 by omega), CodePoint.ofNat_char]
  rfl

/-! ### Texts -/

/-- A character that JSON and YAML read alike between quotes: JSON escapes it, or YAML takes it as
it is. -/
def IsCommon (c : Char) : Prop := c.toNat < 0x20 ∨ isAllowed c = true ∧ isBreak c = false

instance (c : Char) : Decidable (IsCommon c) := inferInstanceAs (Decidable (_ ∨ _))

theorem isCommon_of_le {c : Char} (h : c.toNat ≤ 126) : IsCommon c := by
  have hAll : ∀ n < 127, IsCommon (Char.ofNat n) := by decide +kernel
  rw [← Char.ofNat_toNat c]
  exact hAll c.toNat (by omega)

theorem isGap_of_isCommon {c : Char} (h : IsCommon c) (hControl : ¬c.toNat < 0x20)
    (hBlank : c ≠ ' ') : isGap c = false := by
  have hBreak := (h.resolve_left hControl).2
  have hTab : c ≠ '\t' := by
    rintro rfl
    exact hControl (by decide)
  simp [isGap, hBlank, hTab, hBreak]

/-- A common character is read as itself from what JSON writes for it. -/
theorem double_escapeControls {c : Char} (h : IsCommon c) {rest : Text} (hRest : StaysInLine rest) :
    double 0 (escapeControls (.char c) ++ rest) =
      ahead [.char c] (escapeControls (.char c)).length <$> double 0 rest := by
  simp only [escapeControls]
  cases hLetter : Json.letterEscape? c with
  | some letter =>
      apply double_escape [letter]
      simp [escape, letterEscape?_eq hLetter]
  | none =>
      obtain ⟨hQuote, hBackslash⟩ := Json.ne_of_letterEscape? hLetter
      simp only
      split_ifs with hControl
      · exact double_unit (by omega) rest
      · by_cases hBlank : c = ' '
        · subst hBlank
          exact double_blank hRest
        · exact double_plain hQuote hBackslash (isGap_of_isCommon h hControl hBlank) rest

/-- A character that may stand in a line and is no gap but a blank. -/
def IsLegible (c : Char) : Prop := isAllowed c = true ∧ (c = ' ' ∨ isGap c = false)

theorem isLegible_of_isCommon {c : Char} (h : IsCommon c) (hControl : ¬c.toNat < 0x20) :
    IsLegible c := by
  refine ⟨(h.resolve_left hControl).1, ?_⟩
  by_cases hBlank : c = ' '
  · exact Or.inl hBlank
  · exact Or.inr (isGap_of_isCommon h hControl hBlank)

theorem isLegible_of_isPlain {c : Char} (h : Text.IsPlain c) : IsLegible c := by
  obtain ⟨hLow, hHigh⟩ := h
  exact isLegible_of_isCommon (isCommon_of_le (by omega)) (by omega)

theorem IsLegible.isBreak {c : Char} (h : IsLegible c) : isBreak c = false := by
  rcases h.2 with rfl | hGap
  · rfl
  · simp only [isGap, Bool.or_eq_false_iff] at hGap
    exact hGap.2

theorem isLegible_of_mem_escapeControls {c : Char} (h : IsCommon c) :
    ∀ d ∈ escapeControls (.char c), IsLegible d := by
  simp only [escapeControls]
  cases hLetter : Json.letterEscape? c with
  | some letter => exact fun d hd => isLegible_of_isPlain (Json.isPlain_letter hLetter d hd)
  | none =>
      simp only
      split_ifs with hControl
      · exact fun d hd => isLegible_of_isPlain (Json.isPlain_unitEscape (by omega) d hd)
      · intro d hd
        rw [List.mem_singleton.mp hd]
        exact isLegible_of_isCommon h hControl

theorem staysInLine_quote {text : Text} (h : ∀ c ∈ text, IsLegible c) (rest : Text) :
    StaysInLine (text ++ '"' :: rest) := by
  induction text with
  | nil => exact ⟨[], '"', rest, rfl, by simp, rfl⟩
  | cons c text ih =>
      obtain ⟨hc, hText⟩ := List.forall_mem_cons.mp h
      rcases hc.2 with rfl | hGap
      · obtain ⟨blanks, d, others, hEq, hBlanks, hd⟩ := ih hText
        exact ⟨' ' :: blanks, d, others, by rw [List.cons_append, hEq]; rfl,
          List.forall_mem_cons.mpr ⟨rfl, hBlanks⟩, hd⟩
      · exact ⟨[], c, text ++ '"' :: rest, rfl, by simp, hGap⟩

/-- What JSON writes for a text, behind the opening quote. -/
def written (text : Text) : Text := (WideText.ofText text).flatMap escapeControls ++ ['"']

theorem written_cons (c : Char) (text : Text) :
    written (c :: text) = escapeControls (.char c) ++ written text := by
  simp [written, WideText.ofText]

theorem isLegible_of_mem_written {text : Text} (h : ∀ c ∈ text, IsCommon c) :
    ∀ d ∈ written text, IsLegible d := by
  induction text with
  | nil => exact List.forall_mem_singleton.mpr (isLegible_of_isPlain (by decide))
  | cons c text ih =>
      obtain ⟨hc, hText⟩ := List.forall_mem_cons.mp h
      rw [written_cons, List.forall_mem_append]
      exact ⟨isLegible_of_mem_escapeControls hc, ih hText⟩

/-- A text is read as itself from what JSON writes for it. -/
theorem double_written {text : Text} (h : ∀ c ∈ text, IsCommon c) (rest : Text) :
    double 0 (written text ++ rest) = .ok (.ofText text, (written text).length) := by
  induction text with
  | nil => rfl
  | cons c text ih =>
      obtain ⟨hc, hText⟩ := List.forall_mem_cons.mp h
      have hStays : StaysInLine (written text ++ rest) := by
        rw [written, List.append_assoc]
        apply staysInLine_quote
        intro d hd
        exact isLegible_of_mem_written hText d (List.mem_append_left ['"'] hd)
      rw [written_cons, List.append_assoc, double_escapeControls hc hStays, ih hText,
        List.length_append, Nat.add_comm]
      rfl

end PoolLogin.Yaml.Quoted
