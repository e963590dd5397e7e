import PoolLogin.Proofs.Entries
import PoolLogin.Proofs.Json.Number
import PoolLogin.Proofs.Json.Text
import PoolLogin.Proofs.Text.Join

/-! JSON there and back. A value that is written in any style is read as
itself, with what stands behind it left over. -/

namespace PoolLogin

/-- A wide text without surrogates is a text. -/
theorem WideText.exists_ofText {wide : WideText} (h : (WideText.text? wide).isSome) :
    ∃ text, wide = ofText text := by
  induction wide with
  | nil => exact ⟨[], rfl⟩
  | cons c wide ih =>
      cases c with
      | surrogate n => cases h
      | char c =>
          have hSome : text? (.char c :: wide) =
              (text? wide).bind fun text => some (c :: text) := by
            rw [text?, List.mapM_cons]
            rfl
          have hRest : (text? wide).isSome := by
            cases hText : text? wide with
            | none => simp [hSome, hText] at h
            | some text => rfl
          obtain ⟨text, rfl⟩ := ih hRest
          exact ⟨c :: text, rfl⟩

namespace Json

/-! ### Values that can be read -/

mutual

/-- Whether a value inside `depth` brackets can be read again. It holds
neither surrogates nor fractions, none of its numbers has too many digits, no
object has a key twice, and there are not too many brackets around anything. -/
def Readable (depth : Nat) : Json → Prop
  | .null => True
  | .bool _ => True
  | .int n => (Numeral.natural n.natAbs).length ≤ Numeral.maxDigits
  | .float _ => False
  | .string s => s.text?.isSome
  | .arr items => depth < maxDepth ∧ AllReadable (depth + 1) items
  | .obj members =>
    depth < maxDepth ∧ (members.map (·.1)).Nodup ∧ MembersReadable (depth + 1) members

/-- Whether all items of an array can be read again. -/
def AllReadable (depth : Nat) : List Json → Prop
  | [] => True
  | item :: items => Readable depth item ∧ AllReadable depth items

/-- Whether all members of an object can be read again. -/
def MembersReadable (depth : Nat) : List (WideText × Json) → Prop
  | [] => True
  | (key, value) :: members =>
    key.text?.isSome ∧ Readable depth value ∧ MembersReadable depth members

end

mutual

instance decidableReadable (depth : Nat) : (value : Json) → Decidable (Readable depth value)
  | .null => isTrue trivial
  | .bool _ => isTrue trivial
  | .int _ => inferInstanceAs (Decidable (_ ≤ _))
  | .float _ => isFalse id
  | .string _ => inferInstanceAs (Decidable (_ = true))
  | .arr items =>
    have := decidableAllReadable (depth + 1) items
    inferInstanceAs (Decidable (_ ∧ _))
  | .obj members =>
    have := decidableMembersReadable (depth + 1) members
    inferInstanceAs (Decidable (_ ∧ _ ∧ _))

instance decidableAllReadable (depth : Nat) :
    (items : List Json) → Decidable (AllReadable depth items)
  | [] => isTrue trivial
  | item :: items =>
    have := decidableReadable depth item
    have := decidableAllReadable depth items
    inferInstanceAs (Decidable (_ ∧ _))

instance decidableMembersReadable (depth : Nat) :
    (members : List (WideText × Json)) → Decidable (MembersReadable depth members)
  | [] => isTrue trivial
  | (_, value) :: members =>
    have := decidableReadable depth value
    have := decidableMembersReadable depth members
    inferInstanceAs (Decidable (_ ∧ _ ∧ _))

end

/-! ### White space -/

theorem skipSpace_append {spaces : Text} (h : IsSpaces spaces) (rest : Text) :
    skipSpace (spaces ++ rest) = skipSpace rest :=
  List.dropWhile_append_of_pos h

theorem skipSpace_cons {c : Char} (h : isSpace c = false) (rest : Text) :
    skipSpace (c :: rest) = c :: rest := by
  rw [skipSpace, List.dropWhile_cons, if_neg (by simp [h])]

theorem IsSpaces.append {a b : Text} (ha : IsSpaces a) (hb : IsSpaces b) : IsSpaces (a ++ b) := by
  intro c hc
  rcases List.mem_append.mp hc with h | h
  · exact ha c h
  · exact hb c h

theorem endsValue_spaces {spaces : Text} (h : IsSpaces spaces) {c : Char}
    (hc : c = ',' ∨ c = ']' ∨ c = '\x7d') (rest : Text) : EndsValue (spaces ++ c :: rest) := by
  intro d hd
  cases spaces with
  | nil =>
      cases hd
      exact Or.inr hc
  | cons space spaces =>
      cases hd
      exact Or.inl (h d List.mem_cons_self)

/-! ### Scalars -/

theorem readScalar_null (rest : Text) : readScalar ("null".toList ++ rest) = .ok (.null, rest) :=
  rfl

theorem readScalar_true (rest : Text) :
    readScalar ("true".toList ++ rest) = .ok (.bool true, rest) := rfl

theorem readScalar_false (rest : Text) :
    readScalar ("false".toList ++ rest) = .ok (.bool false, rest) := rfl

/-- Whether a whole number starts with a character. -/
def startsNumber (c : Char) : Bool := c == '-' || c.isDigit

/-- A whole number starts with a digit, or with a minus sign and a digit. -/
theorem decimal_eq_cons (n : Int) :
    ∃ c rest, Numeral.decimal n = c :: rest ∧ startsNumber c ∧ (c = '-' → ∃ d later,
      rest = d :: later ∧ d.isDigit) := by
  obtain ⟨c, rest, hEq, hDigits, _⟩ := Numeral.natural_eq_cons n.natAbs
  have hDigit := hDigits c List.mem_cons_self
  rw [Numeral.decimal]
  split_ifs
  · exact ⟨'-', _, rfl, rfl, fun _ => ⟨c, rest, hEq, hDigit⟩⟩
  · refine ⟨c, rest, hEq, by simp [startsNumber, hDigit], ?_⟩
    rintro rfl
    exact absurd hDigit (by decide)

theorem ne_of_startsNumber {c : Char} (h : startsNumber c) (others : List Char)
    (hOthers : others.any startsNumber = false) : ∀ d ∈ others, d ≠ c := by
  rintro d hd rfl
  exact List.any_eq_false.mp hOthers d hd h

/-- A text that starts with no word is read as a number. -/
theorem readScalar_of_no_word {text : Text}
    (h : ∀ entry ∈ words, Text.after? entry.1 text = none) : readScalar text = readNumber text := by
  rw [readScalar, List.findSome?_eq_none_iff.mpr]
  rintro ⟨word, value⟩ hEntry
  simp only [h _ hEntry, Option.map_none]

/-- No word starts like a whole number. -/
theorem readScalar_decimal {n : Int}
    (hLength : (Numeral.natural n.natAbs).length ≤ Numeral.maxDigits) {rest : Text}
    (h : EndsValue rest) : readScalar (Numeral.decimal n ++ rest) = .ok (.int n, rest) := by
  have hRead := readNumber_decimal hLength h
  obtain ⟨c, later, hEq, hStart, hMinus⟩ := decimal_eq_cons n
  have hWords : ∀ entry ∈ words, Text.after? entry.1 (Numeral.decimal n ++ rest) = none := by
    have hNot := ne_of_startsNumber hStart ['n', 't', 'f', 'N', 'I'] rfl
    simp only [List.forall_mem_cons, List.not_mem_nil, false_implies, implies_true,
      and_true] at hNot
    rw [hEq]
    simp [words, Text.after?, hNot]
    intro hc
    obtain ⟨d, digits, rfl, hDigit⟩ := hMinus hc.symm
    have hLetter : 'I' ≠ d := by
      rintro rfl
      cases hDigit
    simp [Text.after?, hLetter]
  rw [readScalar_of_no_word hWords, hRead]

/-! ### Values -/

/-- Whether a value can start with a character. It tells a value from what may stand around it. -/
def startsValue (c : Char) : Bool := !isSpace c && c != ']' && c != '\uFEFF'

theorem startsValue_of_startsNumber {c : Char} (h : startsNumber c) : startsValue c := by
  have hNot := ne_of_startsNumber h [' ', '\t', '\n', '\r', ']', '\uFEFF'] rfl
  simp only [List.forall_mem_cons, List.not_mem_nil, false_implies, implies_true,
    and_true] at hNot
  simp [startsValue, isSpace, Ne.symm hNot.1, Ne.symm hNot.2.1, Ne.symm hNot.2.2.1,
    Ne.symm hNot.2.2.2.1, Ne.symm hNot.2.2.2.2.1, Ne.symm hNot.2.2.2.2.2]

theorem writeItems_eq_map (style : Style) (depth : Nat) (items : List Json) :
    writeItems style depth items = items.map (writeAt style depth) := by
  induction items with
  | nil => rfl
  | cons item items ih => rw [writeItems, ih, List.map_cons]

theorem writeMembers_eq_map (style : Style) (depth : Nat) (members : List (WideText × Json)) :
    writeMembers style depth members = members.map fun member =>
      writeText style member.1 ++ style.colon ++ writeAt style depth member.2 := by
  induction members with
  | nil => rfl
  | cons member members ih => rw [writeMembers, ih, List.map_cons]

theorem head_enclose (style : Style) (depth : Nat) (opening closing : Char) (items : List Text) :
    ∃ rest, enclose style depth opening closing items = opening :: rest := by
  cases items <;> exact ⟨_, rfl⟩

theorem head_writeAt (style : Style) {depth : Nat} {value : Json} (h : Readable depth value) :
    ∃ c rest, writeAt style depth value = c :: rest ∧ startsValue c := by
  cases value with
  | null => exact ⟨_, _, rfl, rfl⟩
  | bool b => cases b <;> exact ⟨_, _, rfl, rfl⟩
  | int n =>
      obtain ⟨c, rest, hEq, hStart, _⟩ := decimal_eq_cons n
      exact ⟨c, rest, hEq, startsValue_of_startsNumber hStart⟩
  | float x => simp [Readable] at h
  | string s => exact ⟨_, _, rfl, rfl⟩
  | arr items =>
      obtain ⟨rest, hEq⟩ := head_enclose style depth '[' ']' (writeItems style (depth + 1) items)
      exact ⟨_, rest, hEq, rfl⟩
  | obj members =>
      obtain ⟨rest, hEq⟩ := head_enclose style depth '\x7b' '\x7d'
        (writeMembers style (depth + 1) members)
      exact ⟨_, rest, hEq, rfl⟩

/-! ### Reading step by step -/

section

variable {fuel depth : Nat} {text rest : Text}

theorem skipSpace_of_startsValue {c : Char} (h : startsValue c) (rest : Text) :
    skipSpace (c :: rest) = c :: rest := by
  apply skipSpace_cons
  simp only [startsValue, Bool.and_eq_true, Bool.not_eq_true'] at h
  exact h.1.1

theorem readValue_scalar {c : Char} (hQuote : c ≠ '"') (hArray : c ≠ '[') (hObject : c ≠ '\x7b')
    (rest : Text) : readValue (fuel + 1) depth (c :: rest) = readScalar (c :: rest) := by
  rw [readValue]
  · rintro later hEq
    exact hQuote (List.cons.inj hEq).1
  · rintro later hEq
    exact hArray (List.cons.inj hEq).1
  · rintro later hEq
    exact hObject (List.cons.inj hEq).1

theorem readValue_arr {items : List Json} {spaces : Text} {c : Char} (hDepth : depth < maxDepth)
    (hSpaces : IsSpaces spaces) (hStart : startsValue c)
    (h : readItems fuel (depth + 1) (c :: text) = .ok (items, rest)) :
    readValue (fuel + 1) depth ('[' :: (spaces ++ c :: text)) = .ok (.arr items, rest) := by
  have hBracket : c ≠ ']' := by
    simp only [startsValue, Bool.and_eq_true, bne_iff_ne] at hStart
    exact hStart.1.2
  simp only [readValue]
  rw [if_neg (Nat.not_le.mpr hDepth), skipSpace_append hSpaces, skipSpace_of_startsValue hStart]
  simp only [List.cons.injEq, hBracket, false_and, imp_false, not_false_eq_true, implies_true, h]
  rfl

theorem readValue_obj {members : List (WideText × Json)} {spaces : Text} (hDepth : depth < maxDepth)
    (hSpaces : IsSpaces spaces)
    (h : readMembers fuel (depth + 1) ('"' :: text) = .ok (members, rest)) :
    readValue (fuel + 1) depth ('\x7b' :: (spaces ++ '"' :: text)) =
      .ok (.obj (Entries.ofList members), rest) := by
  simp only [readValue]
  rw [if_neg (Nat.not_le.mpr hDepth), skipSpace_append hSpaces, skipSpace_cons rfl]
  change (readMembers fuel (depth + 1) ('"' :: text) >>= fun read =>
    pure (Json.obj (Entries.ofList read.1), read.2)) = _
  rw [h]
  rfl

theorem readItems_last {item : Json} {spaces : Text} (hSpaces : IsSpaces spaces)
    (hItem : readValue fuel depth text = .ok (item, spaces ++ ']' :: rest)) :
    readItems (fuel + 1) depth text = .ok ([item], rest) := by
  rw [readItems, hItem]
  simp only [bind, Except.bind, skipSpace_append hSpaces, skipSpace_cons (c := ']') rfl]
  rfl

theorem readItems_next {item : Json} {items : List Json} {later : Text}
    (hItem : ∃ spaces, IsSpaces spaces ∧
      readValue fuel depth text = .ok (item, ',' :: (spaces ++ later)))
    (hLater : skipSpace later = later) (hItems : readItems fuel depth later = .ok (items, rest)) :
    readItems (fuel + 1) depth text = .ok (item :: items, rest) := by
  obtain ⟨spaces, hSpaces, hItem⟩ := hItem
  rw [readItems, hItem]
  simp only [bind, Except.bind, skipSpace_append hSpaces, skipSpace_cons (c := ',') rfl, hLater,
    hItems]
  rfl

section

variable {key : WideText} {value : Json} {body : Text}
  (hKey : ∃ spaces, IsSpaces spaces ∧ readText ('"' :: text) = .ok (key, ':' :: (spaces ++ body)))
  (hBody : skipSpace body = body)

include hKey hBody

theorem readMembers_last {spaces : Text} (hSpaces : IsSpaces spaces)
    (hValue : readValue fuel depth body = .ok (value, spaces ++ '\x7d' :: rest)) :
    readMembers (fuel + 1) depth ('"' :: text) = .ok ([(key, value)], rest) := by
  obtain ⟨blanks, hBlanks, hKey⟩ := hKey
  rw [readMembers, hKey]
  simp only [bind, Except.bind, skipSpace_append hBlanks, skipSpace_append hSpaces,
    skipSpace_cons (c := ':') rfl, skipSpace_cons (c := '\x7d') rfl, hBody, hValue]
  rfl

theorem readMembers_next {members : List (WideText × Json)} {later : Text}
    (hValue : ∃ spaces, IsSpaces spaces ∧
      readValue fuel depth body = .ok (value, ',' :: (spaces ++ later)))
    (hLater : skipSpace later = later)
    (hMembers : readMembers fuel depth later = .ok (members, rest)) :
    readMembers (fuel + 1) depth ('"' :: text) = .ok ((key, value) :: members, rest) := by
  obtain ⟨blanks, hBlanks, hKey⟩ := hKey
  obtain ⟨spaces, hSpaces, hValue⟩ := hValue
  rw [readMembers, hKey]
  simp only [bind, Except.bind, skipSpace_append hBlanks, skipSpace_append hSpaces,
    skipSpace_cons (c := ':') rfl, skipSpace_cons (c := ',') rfl, hBody, hValue, hLater, hMembers]
  rfl

end

end

end Json

end PoolLogin
