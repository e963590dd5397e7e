import Mathlib.Tactic.SplitIfs
import PoolLogin.Proofs.Text.Join
import PoolLogin.Text.Lines

/-! Texts cut at separators. The pieces are free of them, and joined again
they give the text back. -/

namespace PoolLogin.Text

section

variable {α : Type} {isSeparator : α → Bool}

theorem splitAt_ne_nil (isSeparator : α → Bool) (text : List α) :
    splitAt isSeparator text ≠ [] := by
  cases text with
  | nil => simp [splitAt]
  | cons c rest =>
      rw [splitAt]
      split_ifs
      · simp
      · split <;> simp

/-- A piece goes on until a separator stands next. -/
theorem splitAt_cons_of_false {c : α} (h : isSeparator c = false) (rest : List α) :
    ∃ line lines, splitAt isSeparator rest = line :: lines ∧
      splitAt isSeparator (c :: rest) = (c :: line) :: lines := by
  obtain ⟨line, lines, hRest⟩ := List.exists_cons_of_ne_nil
    (splitAt_ne_nil isSeparator rest)
  refine ⟨line, lines, hRest, ?_⟩
  simp [splitAt, h, hRest]

/-- A separator ends the pieces before it. -/
theorem splitAt_append_cons (text : List α) {c : α} (hc : isSeparator c = true) (rest : List α) :
    splitAt isSeparator (text ++ c :: rest) =
      splitAt isSeparator text ++ splitAt isSeparator rest := by
  induction text with
  | nil => simp [splitAt, hc]
  | cons d text ih =>
      cases hd : isSeparator d with
      | true => rw [List.cons_append, splitAt, if_pos hd, ih, splitAt, if_pos hd, List.cons_append]
      | false =>
          obtain ⟨first, others, hSplit, hCons⟩ := splitAt_cons_of_false hd text
          obtain ⟨_, _, hSplit', hCons'⟩ := splitAt_cons_of_false hd (text ++ c :: rest)
          rw [ih, hSplit] at hSplit'
          obtain ⟨rfl, rfl⟩ := List.cons.inj hSplit'
          rw [List.cons_append, hCons', hCons]
          rfl

theorem splitAt_of_none {line : List α} (hLine : ∀ c ∈ line, isSeparator c = false) :
    splitAt isSeparator line = [line] := by
  induction line with
  | nil => rfl
  | cons c line ih =>
      have hc : isSeparator c = false := hLine c List.mem_cons_self
      have hRest := ih fun d hd => hLine d (List.mem_cons_of_mem c hd)
      simp [splitAt, hc, hRest]

/-- Pieces that are ended one by one are read back, with an empty piece behind the last. -/
theorem splitAt_flatMap {c : α} (hc : isSeparator c = true) {lines : List (List α)}
    (h : ∀ line ∈ lines, ∀ d ∈ line, isSeparator d = false) :
    splitAt isSeparator (lines.flatMap (· ++ [c])) = lines ++ [[]] := by
  induction lines with
  | nil => rfl
  | cons line lines ih =>
      rw [List.flatMap_cons, List.append_assoc, List.singleton_append, splitAt_append_cons line hc,
        splitAt_of_none (h line List.mem_cons_self),
        ih fun other hOther => h other (List.mem_cons_of_mem line hOther)]
      rfl

/-- Pieces hold nothing but what the text holds, and no separator. -/
theorem mem_splitAt {text line : List α} (h : line ∈ splitAt isSeparator text) :
    ∀ c ∈ line, c ∈ text ∧ isSeparator c = false := by
  induction text generalizing line with
  | nil =>
      obtain rfl : line = [] := by simpa [splitAt] using h
      simp
  | cons d rest ih =>
      intro c hc
      cases hd : isSeparator d with
      | true =>
          rw [splitAt, if_pos hd, List.mem_cons] at h
          rcases h with rfl | h
          · cases hc
          · exact ⟨List.mem_cons_of_mem d (ih h c hc).1, (ih h c hc).2⟩
      | false =>
          obtain ⟨first, others, hSplit, hCons⟩ := splitAt_cons_of_false hd rest
          rw [hCons, List.mem_cons] at h
          rcases h with rfl | h
          · rcases List.mem_cons.mp hc with rfl | hc
            · exact ⟨List.mem_cons_self, hd⟩
            · have hFirst := ih (by rw [hSplit]; exact List.mem_cons_self) c hc
              exact ⟨List.mem_cons_of_mem d hFirst.1, hFirst.2⟩
          · have hOther := ih (by rw [hSplit]; exact List.mem_cons_of_mem _ h) c hc
            exact ⟨List.mem_cons_of_mem d hOther.1, hOther.2⟩

/-- What is no separator stands in a piece. -/
theorem exists_mem_splitAt (isSeparator : α → Bool) {text : List α} {c : α} (h : c ∈ text)
    (hc : isSeparator c = false) :
    ∃ piece ∈ splitAt isSeparator text, c ∈ piece := by
  induction text with
  | nil => cases h
  | cons d rest ih =>
      cases hd : isSeparator d with
      | true =>
          rcases List.mem_cons.mp h with rfl | h
          · simp [hd] at hc
          · obtain ⟨piece, hPiece, hMem⟩ := ih h
            rw [splitAt, if_pos hd]
            exact ⟨piece, List.mem_cons_of_mem [] hPiece, hMem⟩
      | false =>
          obtain ⟨first, others, hSplit, hCons⟩ := splitAt_cons_of_false hd rest
          rw [hCons]
          rcases List.mem_cons.mp h with rfl | h
          · exact ⟨_, List.mem_cons_self, List.mem_cons_self⟩
          · obtain ⟨piece, hPiece, hMem⟩ := ih h
            rw [hSplit] at hPiece
            rcases List.mem_cons.mp hPiece with rfl | hPiece
            · exact ⟨_, List.mem_cons_self, List.mem_cons_of_mem d hMem⟩
            · exact ⟨piece, List.mem_cons_of_mem _ hPiece, hMem⟩

end

/-- A newline ends the lines before it. -/
theorem splitLines_append_newline (text rest : Text) :
    splitLines (text ++ ['\n'] ++ rest) = splitLines text ++ splitLines rest := by
  rw [List.append_assoc]
  exact splitAt_append_cons text rfl rest

theorem splitLines_of_notMem {line : Text} (h : '\n' ∉ line) : splitLines line = [line] := by
  apply splitAt_of_none
  intro c hc
  rw [beq_eq_false_iff_ne]
  rintro rfl
  exact h hc

/-- Lines put together again are the text. -/
theorem joinWith_splitLines (text : Text) : joinWith ['\n'] (splitLines text) = text := by
  induction text with
  | nil => rfl
  | cons c rest ih =>
      obtain ⟨line, lines, hRest⟩ := List.exists_cons_of_ne_nil
        (splitAt_ne_nil (· == '\n') rest)
      rw [splitLines, hRest] at ih
      cases hc : c == '\n' with
      | true =>
          obtain rfl : c = '\n' := beq_iff_eq.mp hc
          rw [splitLines, splitAt, if_pos hc, hRest, joinWith_cons_cons, ih]
          rfl
      | false =>
          have hSplit : splitLines (c :: rest) = (c :: line) :: lines := by
            simp [splitLines, splitAt, hc, hRest]
          rw [hSplit]
          cases lines with
          | nil => rw [joinWith_singleton] at ih ⊢; rw [ih]
          | cons second lines =>
              rw [joinWith_cons_cons] at ih ⊢
              rw [← ih]
              rfl

/-- Without carriage returns, newlines are what they are. -/
theorem unifyNewlines_of_notMem {text : Text} (h : '\r' ∉ text) : unifyNewlines text = text := by
  induction text with
  | nil => rfl
  | cons c rest ih =>
      rw [List.mem_cons, not_or] at h
      have hc : c ≠ '\r' := Ne.symm h.1
      rw [unifyNewlines, ih h.2, if_neg hc]
      rintro rest' rfl _
      exact hc rfl

end PoolLogin.Text
