import PoolLogin.Proofs.Json.Value
import PoolLogin.Proofs.Text.Numeral

/-! What JSON is written with. Apart from what the style itself puts between
values, no control character stands in it. -/

namespace PoolLogin.Json

open Text (IsPlain forall_isPlain)

/-- What a style puts around texts has a property. All printable characters of ASCII have it. -/
structure Style.Frames (style : Style) (P : Char → Prop) : Prop where
  plain : ∀ c, IsPlain c → P c
  comma : ∀ c ∈ style.comma, P c
  colon : ∀ c ∈ style.colon, P c
  newline : ∀ depth, ∀ c ∈ style.newline depth, P c

/-- What is written in a style has a property, whatever the texts. -/
structure Style.Writes (style : Style) (P : Char → Prop) : Prop extends Style.Frames style P where
  escape : ∀ p, ∀ c ∈ style.escape p, P c

theorem isPlain_null : ∀ c ∈ "null".toList, IsPlain c := forall_isPlain rfl

theorem isPlain_true : ∀ c ∈ "true".toList, IsPlain c := forall_isPlain rfl

theorem isPlain_false : ∀ c ∈ "false".toList, IsPlain c := forall_isPlain rfl

theorem isPlain_decimal (n : Int) : ∀ c ∈ Numeral.decimal n, IsPlain c := by
  rw [Numeral.decimal]
  split_ifs
  · intro c hc
    rcases List.mem_cons.mp hc with rfl | hc
    · decide
    · exact Text.isPlain_natural n.natAbs c hc
  · exact Text.isPlain_natural n.natAbs

variable {style : Style} {P : Char → Prop}

theorem forall_writeText (hStyle : style.Writes P) (text : WideText) :
    ∀ c ∈ writeText style text, P c := by
  intro c hc
  rw [writeText, List.mem_cons, List.mem_append, List.mem_flatMap, List.mem_singleton] at hc
  rcases hc with rfl | ⟨p, _, hc⟩ | rfl
  · exact hStyle.plain _ (by decide)
  · exact hStyle.escape p c hc
  · exact hStyle.plain _ (by decide)

theorem forall_enclose (hStyle : style.Frames P) {depth : Nat} {opening closing : Char}
    (hOpening : IsPlain opening) (hClosing : IsPlain closing) {items : List Text}
    (h : ∀ item ∈ items, ∀ c ∈ item, P c) :
    ∀ c ∈ enclose style depth opening closing items, P c := by
  intro c hc
  cases items with
  | nil =>
      rcases List.mem_cons.mp hc with rfl | hc
      · exact hStyle.plain _ hOpening
      · rw [List.mem_singleton] at hc
        exact hStyle.plain _ (hc ▸ hClosing)
  | cons item items =>
      simp only [enclose, List.mem_cons, List.mem_append, List.not_mem_nil, or_false] at hc
      rcases hc with rfl | ((hNewline | hItems) | hNewline) | rfl
      · exact hStyle.plain _ hOpening
      · exact hStyle.newline _ c hNewline
      · rcases Text.mem_joinWith hItems with hSeparator | ⟨text, hText, hc⟩
        · rcases List.mem_append.mp hSeparator with hComma | hNewline
          · exact hStyle.comma c hComma
          · exact hStyle.newline _ c hNewline
        · exact h text hText c hc
      · exact hStyle.newline _ c hNewline
      · exact hStyle.plain _ hClosing

mutual

/-- Every character of a value that is written has the property. -/
theorem forall_writeAt {style : Style} {P : Char → Prop} (hStyle : style.Writes P) :
    ∀ (value : Json) (depth : Nat), Readable depth value → ∀ c ∈ writeAt style depth value, P c
  | .null, _, _ => fun c hc => hStyle.plain c (isPlain_null c hc)
  | .bool true, _, _ => fun c hc => hStyle.plain c (isPlain_true c hc)
  | .bool false, _, _ => fun c hc => hStyle.plain c (isPlain_false c hc)
  | .int n, _, _ => fun c hc => hStyle.plain c (isPlain_decimal n c hc)
  | .string s, _, _ => forall_writeText hStyle s
  | .arr items, depth, h =>
      forall_enclose hStyle.toFrames (by decide) (by decide)
        (forall_writeItems hStyle items (depth + 1) h.2)
  | .obj members, depth, h =>
      forall_enclose hStyle.toFrames (by decide) (by decide)
        (forall_writeMembers hStyle members (depth + 1) h.2.2)

theorem forall_writeItems {style : Style} {P : Char → Prop} (hStyle : style.Writes P) :
    ∀ (items : List Json) (depth : Nat), AllReadable depth items →
      ∀ item ∈ writeItems style depth items, ∀ c ∈ item, P c
  | [], _, _ => by simp [writeItems]
  | item :: items, depth, h => by
    intro text hText
    rcases List.mem_cons.mp hText with rfl | hText
    · exact forall_writeAt hStyle item depth h.1
    · exact forall_writeItems hStyle items depth h.2 text hText

theorem forall_writeMembers {style : Style} {P : Char → Prop} (hStyle : style.Writes P) :
    ∀ (members : List (WideText × Json)) (depth : Nat), MembersReadable depth members →
      ∀ item ∈ writeMembers style depth members, ∀ c ∈ item, P c
  | [], _, _ => by simp [writeMembers]
  | (key, value) :: members, depth, h => by
    intro text hText c hc
    rcases List.mem_cons.mp hText with rfl | hText
    · rcases List.mem_append.mp hc with hc | hc
      · rcases List.mem_append.mp hc with hc | hc
        · exact forall_writeText hStyle key c hc
        · exact hStyle.colon c hc
      · exact forall_writeAt hStyle value depth h.2.1 c hc
    · exact forall_writeMembers hStyle members depth h.2.2 text hText c hc

end

/-! ### Styles -/

theorem isPlain_unitEscape {n : Nat} (h : n < 0x10000) : ∀ c ∈ unitEscape n, IsPlain c := by
  have hDigit : ∀ d < 16, IsPlain (Nat.digitChar d) := by decide
  obtain ⟨a, ha, b, hb, c, hc, d, hd, _, hDigits⟩ := Numeral.hexadecimal_four h
  rw [unitEscape, hDigits]
  simp only [List.map_cons, List.map_nil, List.forall_mem_cons, List.not_mem_nil, false_implies,
    implies_true, and_true]
  exact ⟨by decide, by decide, hDigit a ha, hDigit b hb, hDigit c hc, hDigit d hd⟩

theorem isPlain_surrogate (n : Fin 0x800) :
    ∀ c ∈ unitEscape (CodePoint.surrogate n).toNat, IsPlain c :=
  isPlain_unitEscape (by simp only [CodePoint.toNat, CodePoint.firstSurrogate]; omega)

theorem isPlain_letter {c letter : Char} (h : letterEscape? c = some letter) :
    ∀ d ∈ ['\\', letter], IsPlain d := by
  have hLetter : IsPlain letter := by
    simp only [letterEscape?] at h
    split_ifs at h with h1
    · cases h
      rcases h1 with rfl | rfl <;> decide
    all_goals
      cases h
      decide
  simpa using ⟨by decide, hLetter⟩

/-- No control character of ASCII. -/
def IsInk (c : Char) : Prop := 0x20 ≤ c.toNat

instance (c : Char) : Decidable (IsInk c) := inferInstanceAs (Decidable (_ ≤ _))

theorem isInk_escapeControls (p : CodePoint) : ∀ c ∈ escapeControls p, IsInk c := by
  cases p with
  | surrogate n => exact fun c hc => (isPlain_surrogate n c hc).1
  | char c =>
      simp only [escapeControls]
      cases hLetter : letterEscape? c with
      | some letter => exact fun d hd => (isPlain_letter hLetter d hd).1
      | none =>
          simp only
          split_ifs with hControl
          · exact fun d hd => (isPlain_unitEscape (by omega) d hd).1
          · intro d hd
            rw [List.mem_singleton.mp hd]
            exact Nat.le_of_not_lt hControl

theorem isPlain_escapeAscii (p : CodePoint) : ∀ c ∈ escapeAscii p, IsPlain c := by
  cases p with
  | surrogate n => exact isPlain_surrogate n
  | char c =>
      have hValid : c.toNat < 0xD800 ∨ 0xDFFF < c.toNat ∧ c.toNat < 0x110000 := c.valid
      simp only [escapeAscii]
      cases hLetter : letterEscape? c with
      | some letter => exact isPlain_letter hLetter
      | none =>
          simp only
          split_ifs with hPlain hUnit
          · intro d hd
            rw [List.mem_singleton.mp hd]
            exact hPlain
          · exact isPlain_unitEscape hUnit
          · intro d hd
            rcases List.mem_append.mp hd with hd | hd
            · exact isPlain_unitEscape (by omega) d hd
            · exact isPlain_unitEscape (by omega) d hd

/-- A log line is printable ASCII. -/
theorem writes_ascii : Style.ascii.Writes IsPlain where
  plain _ h := h
  escape := isPlain_escapeAscii
  comma := forall_isPlain rfl
  colon := forall_isPlain rfl
  newline _ := by simp [Style.ascii]

/-- Newlines are the only control characters between items. -/
theorem writes_indented : Style.indented.Writes fun c => IsInk c ∨ c = '\n' where
  plain _ h := Or.inl h.1
  escape p c hc := Or.inl (isInk_escapeControls p c hc)
  comma := by simp [Style.indented, IsInk]
  colon := by simp [Style.indented, IsInk]
  newline _ := by simp [Style.indented, IsInk]

end PoolLogin.Json
