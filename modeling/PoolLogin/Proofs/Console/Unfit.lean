import PoolLogin.Proofs.Console.Lead

/-! Lines that cannot be printed. A joiner at the start of a word has nothing
to act on, which the widths of characters and of clusters take differently. So
a word can be too wide for a line although its clusters are not: no part of it
is continued on the next line, and there is no place to cut it. -/

namespace PoolLogin.Console

open Text

/-- A word that is too wide for a line, of clusters that are not. -/
structure Unfit (word : Text) : Prop where
  ink : ∀ c ∈ word, isBlank c = false ∧ IsShown c
  wide : lineWidth < cells word
  some : Cluster.total (Cluster.ofText word) ≠ 0
  narrow : Cluster.total (Cluster.ofText word) < lineWidth

/-- A text of nothing but ink is one word. -/
theorem wordsFrom_ink (fuel : Nat) {word : Text} (hSome : word ≠ [])
    (hInk : ∀ c ∈ word, isBlank c = false) : wordsFrom (fuel + 1) word = [word] := by
  obtain ⟨hTake, hDrop⟩ := takeWhile_isBlank_eq_nil hSome hInk []
  rw [List.append_nil] at hTake hDrop
  have hWord : ∀ c ∈ word, (!isBlank c) = true := fun c hc => by rw [hInk c hc]; rfl
  have hNone : wordsFrom fuel [] = [] := by cases fuel <;> rfl
  simp only [wordsFrom, List.span_eq_takeWhile_dropWhile, hTake, hDrop,
    List.takeWhile_eq_self_iff.mpr hWord, List.dropWhile_eq_nil_iff.mpr hWord]
  rw [List.isEmpty_eq_false_iff.mpr hSome, if_neg Bool.false_ne_true]
  simp [hNone]

section

variable {words : List Text} (hWords : ∀ word ∈ words, IsPlainWord word) (hSome : words ≠ [])
  (hFits : (spaced words).length ≤ lineWidth) {word : Text} (h : Unfit word)

include h

theorem Unfit.ne_nil : word ≠ [] := by
  rintro rfl
  exact Nat.not_lt_zero _ h.wide

theorem Unfit.dropTrailingBlanks_eq : dropTrailingBlanks word = word := by
  have hDrop := dropTrailingBlanks_append (fun c hc => (h.ink c hc).1) (List.forall_mem_nil _)
  rwa [List.append_nil] at hDrop

/-- Such a word cannot be made to fit. -/
theorem Unfit.fit_eq :
    fit .fold lineWidth (dropExcessBlanks lineWidth word) = .error .tooFewCells := by
  have hExcess : dropExcessBlanks lineWidth word = word := by
    simp only [dropExcessBlanks, h.dropTrailingBlanks_eq]
    rw [Nat.sub_self, Nat.zero_min, Nat.sub_zero, List.take_length]
  rw [hExcess, fit, if_neg (Nat.not_le.mpr h.wide), setCells_error h.wide h.some h.narrow]

include hWords hSome hFits

/-- The word is put on a line of its own, all of it. -/
theorem breakLine_of_unfit :
    breakLine .fold lineWidth (spaced words ++ word) = [spaced words, word] := by
  have hInk : ∀ c ∈ word, isBlank c = false := fun c hc => (h.ink c hc).1
  have hText : Console.words (spaced words ++ word) = words.map (· ++ [' ']) ++ [word] := by
    have hStart := takeWhile_isBlank_eq_nil h.ne_nil hInk []
    rw [List.append_nil] at hStart
    have hLength := length_le_length_spaced words
    have hWord := List.length_pos_iff.mpr h.ne_nil
    obtain ⟨n, hn⟩ : ∃ n, (spaced words ++ word).length - words.length = n + 1 :=
      ⟨_, (Nat.succ_pred_eq_of_pos (by rw [List.length_append]; omega)).symm⟩
    rw [Console.words, wordsFrom_spaced hWords hStart (by rw [List.length_append]; omega), hn,
      wordsFrom_ink n h.ne_nil hInk]
  have hLine : (spaced words).isEmpty = false := by
    rw [← joinWith_append_blank hSome]
    simp
  have hLast : fill .fold lineWidth (spaced words).length (spaced words) [word] =
      [spaced words, word] := by
    have hWide := h.wide
    simp only [fill, h.dropTrailingBlanks_eq, hLine]
    rw [if_neg (by omega), if_pos hWide, if_neg Bool.false_ne_true,
      chopCells_of_fits (Nat.le_of_lt h.narrow) h.some]
    rfl
  rw [breakLine, hText]
  split
  · next hNone => exact absurd hNone (List.append_ne_nil_of_right_ne_nil _ (List.cons_ne_nil _ _))
  · rw [fill_spaced hWords (by rwa [Nat.zero_add]), Nat.zero_add, List.nil_append, hLast]

/-- A line that ends in such a word behind plain ones cannot be broken, wherever it is cut. -/
theorem wrapLine_of_unfit {line : List (Char × Bool)}
    (hLine : line.map (·.1) = spaced words ++ word) : wrapLine line = .error .tooFewCells := by
  obtain ⟨before, after, rfl, hBefore, hAfter⟩ := List.map_eq_append_iff.mp hLine
  have hPlain : ∀ a ∈ before, IsPlain a.1 := by
    intro a ha
    apply isPlain_spaced hWords
    rw [← hBefore]
    exact List.mem_map_of_mem ha
  have hTabs : expandTabsIn Prod.fst (' ', false) (before ++ after) = before ++ after := by
    apply expandTabsIn_of_notMem
    intro a ha
    rcases List.mem_append.mp ha with ha | ha
    · exact (hPlain a ha).ne (by decide)
    · refine (h.ink a.1 ?_).2.2
      rw [← hAfter]
      exact List.mem_map_of_mem ha
  have hBeforeLength : (spaced words).length = before.length := by rw [← hBefore, List.length_map]
  have hAfterLength : word.length = after.length := by rw [← hAfter, List.length_map]
  simp only [wrapLine, hTabs, hLine, breakLine_of_unfit hWords hSome hFits h, List.map_cons,
    List.map_nil, portions, hBeforeLength, hAfterLength, List.take_left, List.drop_left,
    List.take_length, List.mapM_cons]
  rw [shown_of_fits hPlain (by rwa [← hBeforeLength]), hAfter, h.fit_eq]
  rfl

/-- Nor can a text that is such a line be printed. -/
theorem printWrapped_of_unfit : printWrapped (spaced words ++ word) = .error .tooFewCells := by
  have hShown : ∀ c ∈ spaced words ++ word, IsShown c ∧ c ≠ '\n' := by
    intro c hc
    rcases List.mem_append.mp hc with hc | hc
    · have hPlain := isPlain_spaced hWords c hc
      exact ⟨isShown_of_le hPlain.1, hPlain.ne (by decide)⟩
    · refine ⟨(h.ink c hc).2, ?_⟩
      rintro rfl
      exact absurd (h.ink _ hc).1 (by decide)
  have hControls : dropControls (spaced words ++ word) = spaced words ++ word :=
    dropControls_of_shown fun c hc => (hShown c hc).1
  have hLine : splitAt (·.1 == '\n') (Highlight.cuts (spaced words ++ word)) =
      [Highlight.cuts (spaced words ++ word)] :=
    splitAt_of_none fun a ha => beq_eq_false_iff_ne.mpr (hShown a.1 (mem_cuts ha)).2
  rw [printWrapped, hControls, hLine, List.mapM_cons,
    wrapLine_of_unfit hWords hSome hFits h (map_cuts _)]
  rfl

end

end PoolLogin.Console
