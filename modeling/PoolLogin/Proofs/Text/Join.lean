import PoolLogin.Text.Utf8

/-! Texts that are put together with something between them. -/

namespace PoolLogin.Text

variable {α : Type}

@[simp] theorem joinWith_nil (separator : List α) : joinWith separator [] = [] := rfl

@[simp] theorem joinWith_singleton (separator text : List α) :
    joinWith separator [text] = text := rfl

@[simp] theorem joinWith_cons_cons (separator first second : List α) (texts : List (List α)) :
    joinWith separator (first :: second :: texts) =
      first ++ separator ++ joinWith separator (second :: texts) := rfl

theorem joinWith_append (separator : List α) {texts others : List (List α)} (hTexts : texts ≠ [])
    (hOthers : others ≠ []) :
    joinWith separator (texts ++ others) =
      joinWith separator texts ++ separator ++ joinWith separator others := by
  induction texts with
  | nil => exact absurd rfl hTexts
  | cons first texts ih =>
      cases texts with
      | nil =>
          obtain ⟨next, others, rfl⟩ := List.exists_cons_of_ne_nil hOthers
          rfl
      | cons second texts =>
          have hRest := ih (List.cons_ne_nil second texts)
          rw [List.cons_append] at hRest ⊢
          rw [List.cons_append, joinWith_cons_cons, hRest, joinWith_cons_cons]
          simp only [List.append_assoc]

/-- What is put together holds nothing but what it was put together from. -/
theorem mem_joinWith {separator : List α} {texts : List (List α)} {c : α}
    (h : c ∈ joinWith separator texts) : c ∈ separator ∨ ∃ text ∈ texts, c ∈ text := by
  induction texts with
  | nil => cases h
  | cons first texts ih =>
      cases texts with
      | nil => exact Or.inr ⟨first, List.mem_cons_self, h⟩
      | cons second texts =>
          rw [joinWith_cons_cons, List.mem_append, List.mem_append] at h
          rcases h with (hFirst | hSeparator) | hRest
          · exact Or.inr ⟨first, List.mem_cons_self, hFirst⟩
          · exact Or.inl hSeparator
          · rcases ih hRest with hSeparator | ⟨text, hText, hc⟩
            · exact Or.inl hSeparator
            · exact Or.inr ⟨text, List.mem_cons_of_mem first hText, hc⟩

theorem mem_joinWith_of_mem (separator : List α) {texts : List (List α)} {text : List α}
    (h : text ∈ texts) {c : α} (hc : c ∈ text) : c ∈ joinWith separator texts := by
  induction texts with
  | nil => cases h
  | cons first texts ih =>
      cases texts with
      | nil =>
          rw [List.mem_singleton] at h
          rwa [joinWith_singleton, ← h]
      | cons second texts =>
          rw [joinWith_cons_cons, List.mem_append, List.mem_append]
          rcases List.mem_cons.mp h with rfl | h
          · exact Or.inl (Or.inl hc)
          · exact Or.inr (ih h)

/-- Without its last text, what is put together is a start of the whole. -/
theorem joinWith_dropLast_isPrefix (separator : List α) (texts : List (List α)) :
    joinWith separator texts.dropLast <+: joinWith separator texts := by
  induction texts with
  | nil => exact List.prefix_rfl
  | cons first texts ih =>
      match texts with
      | [] => exact List.nil_prefix
      | [second] =>
          rw [joinWith_cons_cons, List.append_assoc]
          exact List.prefix_append _ _
      | second :: third :: texts =>
          rw [List.dropLast_cons_cons, List.dropLast_cons_cons, joinWith_cons_cons,
            joinWith_cons_cons]
          rw [List.dropLast_cons_cons] at ih
          exact (List.prefix_append_right_inj _).mpr ih

end PoolLogin.Text

namespace PoolLogin.Utf8

@[simp] theorem encode_nil : encode [] = [] := rfl

@[simp] theorem encode_cons (c : Char) (text : Text) :
    encode (c :: text) = encodeChar c ++ encode text := rfl

@[simp] theorem encode_append (a b : Text) : encode (a ++ b) = encode a ++ encode b := by
  simp [encode]

theorem encode_isPrefix {a b : Text} (h : a <+: b) : encode a <+: encode b := by
  obtain ⟨rest, rfl⟩ := h
  rw [encode_append]
  exact List.prefix_append _ _

end PoolLogin.Utf8
