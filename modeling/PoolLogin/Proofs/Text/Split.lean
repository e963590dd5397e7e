import Mathlib.Data.List.Basic
import PoolLogin.Text.Split

/-! Splitting at a single delimiter. The field is what stands before the
first occurrence, so it is free of the delimiter, and the rest may hold
any number of further ones. -/

namespace PoolLogin.Text

variable {α β : Type} [DecidableEq α] [DecidableEq β]

theorem after?_singleton (delimiter c : α) (text : List α) :
    after? [delimiter] (c :: text) = if delimiter = c then some text else none := by
  simp only [after?]

/-- A text without the delimiter is one field, and nothing follows it. -/
theorem splitOnce_of_notMem {delimiter : α} {text : List α} (h : delimiter ∉ text) :
    splitOnce [delimiter] text = (text, none) := by
  induction text with
  | nil => rfl
  | cons c text ih =>
      rw [List.mem_cons, not_or] at h
      obtain ⟨hHead, hTail⟩ := h
      rw [splitOnce, after?_singleton, if_neg hHead]
      simp only [ih hTail]

/-- The first delimiter ends the field, whatever stands behind it. -/
theorem splitOnce_append {delimiter : α} {field : List α} (rest : List α)
    (h : delimiter ∉ field) :
    splitOnce [delimiter] (field ++ delimiter :: rest) = (field, some rest) := by
  induction field with
  | nil =>
      rw [List.nil_append, splitOnce, after?_singleton, if_pos rfl]
  | cons c field ih =>
      rw [List.mem_cons, not_or] at h
      obtain ⟨hHead, hTail⟩ := h
      rw [List.cons_append, splitOnce, after?_singleton, if_neg hHead]
      simp only [ih hTail]

/-- Every text has one of the two shapes that splitting tells apart. -/
theorem split_cases (delimiter : α) (text : List α) :
    delimiter ∉ text ∨
      ∃ field rest, delimiter ∉ field ∧ text = field ++ delimiter :: rest := by
  by_cases h : delimiter ∈ text
  · obtain ⟨field, rest, hText, hField⟩ := List.eq_append_cons_of_mem h
    exact Or.inr ⟨field, rest, hField, hText⟩
  · exact Or.inl h

/-- Splitting looks at nothing but where the delimiter stands, so it goes
together with any injective change of what a text is made of. -/
theorem splitOnce_map {f : α → β} (hf : Function.Injective f) (delimiter : α) (text : List α) :
    splitOnce [f delimiter] (text.map f) =
      ((splitOnce [delimiter] text).1.map f, (splitOnce [delimiter] text).2.map (List.map f)) := by
  rcases split_cases delimiter text with hNone | ⟨field, rest, hField, rfl⟩
  · have hMap : f delimiter ∉ text.map f := by
      rwa [List.mem_map_of_injective hf]
    rw [splitOnce_of_notMem hNone, splitOnce_of_notMem hMap]
    rfl
  · have hMap : f delimiter ∉ field.map f := by
      rwa [List.mem_map_of_injective hf]
    rw [splitOnce_append rest hField, List.map_append, List.map_cons,
      splitOnce_append (rest.map f) hMap]
    rfl

/-! ### Delimiters of any length

The search tries one start after the other, so what it finds is the first
occurrence, also where occurrences overlap or the delimiter is empty. -/

theorem after?_eq_some_iff {start text rest : List α} :
    after? start text = some rest ↔ text = start ++ rest := by
  fun_induction after? start text with
  | case1 text => simp
  | case2 => simp
  | case3 start c text ih => simp [ih]
  | case4 s start c text hc => simp [Ne.symm hc]

theorem after?_eq_none_iff {start text : List α} :
    after? start text = none ↔ ¬start <+: text := by
  rw [← not_iff_not, not_not, ← Ne, Option.ne_none_iff_exists']
  exact exists_congr fun rest => after?_eq_some_iff.trans eq_comm

/-- The two shapes of a result: the delimiter occurs nowhere, or it stands
behind the field and nowhere in front of that. -/
theorem splitOnce_cases (delimiter text : List α) :
    (splitOnce delimiter text = (text, none) ∧ ¬delimiter <:+: text) ∨
      ∃ field rest, splitOnce delimiter text = (field, some rest) ∧
        text = field ++ delimiter ++ rest ∧
        ∀ a b, text = a ++ delimiter ++ b → field.length ≤ a.length := by
  fun_induction splitOnce delimiter text with
  | case1 text rest hRest =>
      exact Or.inr ⟨[], rest, rfl, after?_eq_some_iff.mp hRest, fun _ _ _ => Nat.zero_le _⟩
  | case2 hNone =>
      refine Or.inl ⟨rfl, fun hInfix => after?_eq_none_iff.mp hNone ?_⟩
      exact List.infix_nil.mp hInfix ▸ List.nil_prefix
  | case3 c text field rest hSplit hNone ih =>
      have hStart : ¬delimiter <+: c :: text := after?_eq_none_iff.mp hNone
      rcases ih with ⟨hResult, hNowhere⟩ | ⟨first, later, hResult, hText, hFirst⟩
      · obtain ⟨rfl, rfl⟩ := Prod.mk.inj (hSplit.symm.trans hResult)
        refine Or.inl ⟨rfl, fun hInfix => ?_⟩
        rcases List.infix_cons_iff.mp hInfix with hPrefix | hInner
        · exact hStart hPrefix
        · exact hNowhere hInner
      · obtain ⟨rfl, rfl⟩ := Prod.mk.inj (hSplit.symm.trans hResult)
        refine Or.inr ⟨c :: field, later, rfl, by rw [hText]; rfl, fun a b hOther => ?_⟩
        cases a with
        | nil => exact absurd ⟨b, hOther.symm⟩ hStart
        | cons d a => exact Nat.succ_le_succ (hFirst a b (List.cons.inj hOther).2)

omit [DecidableEq α] in
/-- Two decompositions with fields of one length are the same. -/
theorem append_inj_of_length {delimiter field rest a b : List α}
    (h : field ++ delimiter ++ rest = a ++ delimiter ++ b) (hLength : field.length = a.length) :
    (a, b) = (field, rest) := by
  rw [List.append_assoc, List.append_assoc] at h
  obtain ⟨rfl, hRest⟩ := List.append_inj h hLength
  rw [List.append_cancel_left hRest]

/-- Splitting takes the first occurrence of the delimiter. Nothing follows the
field exactly if the delimiter is no part of the text, and the field is all of
it then. Otherwise the delimiter stands between the field and what follows, and
wherever else it stands, more is in front of it. -/
theorem splitOnce_first_occurrence (delimiter text : List α) :
    (∀ field, splitOnce delimiter text = (field, none) ↔
      field = text ∧ ¬delimiter <:+: text) ∧
    (∀ field rest, splitOnce delimiter text = (field, some rest) ↔
      text = field ++ delimiter ++ rest ∧
        ∀ a b, text = a ++ delimiter ++ b → (a, b) ≠ (field, rest) →
          field.length < a.length) ∧
    ((splitOnce delimiter text).2 = none ↔ ¬delimiter <:+: text) := by
  rcases splitOnce_cases delimiter text with ⟨hResult, hNowhere⟩ |
    ⟨first, later, hResult, hText, hFirst⟩
  · refine ⟨fun field => ?_, fun field rest => ?_, by simp [hResult, hNowhere]⟩
    · simp [hResult, hNowhere, eq_comm]
    · refine ⟨fun h => by simp [hResult] at h, fun h => absurd ⟨field, rest, h.1.symm⟩ hNowhere⟩
  · have hInfix : delimiter <:+: text := ⟨first, later, hText.symm⟩
    refine ⟨fun field => ?_, fun field rest => ?_, by simp [hResult, hInfix]⟩
    · simp [hResult, hInfix]
    · rw [hResult, Prod.mk.injEq, Option.some.injEq]
      constructor
      · rintro ⟨rfl, rfl⟩
        refine ⟨hText, fun a b hOther hNe => ?_⟩
        refine Nat.lt_of_le_of_ne (hFirst a b hOther) fun hLength => hNe ?_
        exact append_inj_of_length (hText.symm.trans hOther) hLength
      · rintro ⟨hOther, hLeast⟩
        by_contra hNe
        have hLess := hLeast first later hText fun hSame => hNe (Prod.mk.inj hSame)
        exact absurd (hFirst field rest hOther) (Nat.not_le.mpr hLess)

/-- A delimiter that overlaps itself, and the empty one. -/
theorem splitOnce_first_of_overlapping :
    splitOnce "aa".toList "baaa".toList = (['b'], some ['a']) ∧
      "baaa".toList = "ba".toList ++ "aa".toList ++ [] ∧ ['b'].length < "ba".toList.length ∧
      splitOnce [] "ab".toList = ([], some "ab".toList) := by
  have hSplit : splitOnce "aa".toList "baaa".toList = (['b'], some ['a']) := by decide
  obtain ⟨-, hOverlapping, -⟩ := splitOnce_first_occurrence "aa".toList "baaa".toList
  exact ⟨hSplit, rfl, ((hOverlapping _ _).mp hSplit).2 "ba".toList [] rfl (by decide), by decide⟩

end PoolLogin.Text
