import Mathlib.Tactic.SplitIfs
import PoolLogin.Text.Grapheme

/-! The cells of a text and of its clusters. They are the same unless a
joiner stands at the start of the text, and then cutting can fail; a text
without joiners can always be cut. -/

namespace PoolLogin.Text

theorem cellWidth_pictureSelector : cellWidth pictureSelector = 0 := by decide +kernel

theorem joiner_ne_blank : joiner ≠ ' ' := by decide

/-- Unless a joiner comes next, one character is measured after the other. -/
theorem cellsAfter_cons {last : Option Char} {c : Char} (hc : c ≠ joiner) (rest : Text) :
    cellsAfter last (c :: rest) =
      cellsAfter.own last c + cellsAfter (cellsAfter.next last c) rest := by
  cases rest with
  | nil => simp [cellsAfter]
  | cons d rest => rw [cellsAfter, if_neg hc]

section

variable {a b : Option Char} (h : a.any hasWiderPicture = b.any hasWiderPicture)

include h

theorem own_congr (c : Char) : cellsAfter.own a c = cellsAfter.own b c := by
  rw [cellsAfter.own, cellsAfter.own, h]

theorem next_congr (c : Char) :
    (cellsAfter.next a c).any hasWiderPicture = (cellsAfter.next b c).any hasWiderPicture := by
  rw [cellsAfter.next, cellsAfter.next]
  split_ifs
  · rfl
  · exact h
  · rfl

/-- Of the character that took a cell last, no more matters than whether a selector widens it. -/
theorem cellsAfter_congr (text : Text) : cellsAfter a text = cellsAfter b text := by
  fun_induction cellsAfter a text generalizing b with
  | case1 => rfl
  | case2 a c => rw [cellsAfter, own_congr h]
  | case3 a d rest ih => rw [ih h, cellsAfter, if_pos rfl]
  | case4 a c d rest hJoiner ih => rw [ih (next_congr h c), cellsAfter_cons hJoiner, own_congr h]

end

/-- A text that does not end in a joiner is measured by itself, apart from what it leaves for a
selector behind it to widen. -/
theorem exists_cellsAfter_append {text : Text} (h : text.getLast? ≠ some joiner)
    (last : Option Char) :
    ∃ next, ∀ rest,
      cellsAfter last (text ++ rest) = cellsAfter last text + cellsAfter next rest := by
  fun_induction cellsAfter last text with
  | case1 last => exact ⟨last, fun rest => by rw [List.nil_append, Nat.zero_add]⟩
  | case2 last c =>
      have hc : c ≠ joiner := by simpa using h
      exact ⟨_, fun rest => by rw [List.singleton_append, cellsAfter_cons hc]⟩
  | case3 last d text ih =>
      have hText : text.getLast? ≠ some joiner := by
        cases text with
        | nil => simp
        | cons e text => simpa using h
      obtain ⟨next, hNext⟩ := ih hText
      refine ⟨next, fun rest => ?_⟩
      rw [List.cons_append, List.cons_append, cellsAfter, if_pos rfl, hNext]
  | case4 last c d text hJoiner ih =>
      obtain ⟨next, hNext⟩ := ih (by simpa using h)
      refine ⟨next, fun rest => ?_⟩
      rw [List.cons_append, cellsAfter_cons hJoiner, hNext, Nat.add_assoc]

/-- Behind a text that does not end in a joiner a blank takes a cell, and what
follows the blank is measured by itself. -/
theorem cells_append_blank {text : Text} (h : text.getLast? ≠ some joiner) (rest : Text) :
    cells (text ++ ' ' :: rest) = cells text + 1 + cells rest := by
  obtain ⟨next, hNext⟩ := exists_cellsAfter_append h none
  have hBlank : cellsAfter.own next ' ' = 1 := by
    rw [cellsAfter.own, if_neg (by decide), if_neg (by decide)]
    rfl
  have hNone : (cellsAfter.next next ' ').any hasWiderPicture =
      (none : Option Char).any hasWiderPicture := by
    rw [cellsAfter.next, if_neg (by decide), if_neg (by decide)]
    decide +kernel
  rw [cells, hNext, cellsAfter_cons joiner_ne_blank.symm, hBlank, cellsAfter_congr hNone, cells,
    cells, Nat.add_assoc]

namespace Cluster

@[simp] theorem total_cons (cluster : Cluster) (clusters : List Cluster) :
    total (cluster :: clusters) = cluster.size + total clusters := by
  have hShift : ∀ n, clusters.foldl (fun n cluster => n + cluster.size) n =
      n + clusters.foldl (fun n cluster => n + cluster.size) 0 := by
    induction clusters with
    | nil => simp
    | cons first clusters ih =>
        intro n
        rw [List.foldl_cons, List.foldl_cons, ih, ih (0 + first.size)]
        omega
  rw [total, List.foldl_cons, hShift, total]
  omega

@[simp] theorem total_nil : total [] = 0 := rfl

/-- Measured behind a cluster, a text takes as many cells in clusters as it
takes as a whole. The two ways to measure may remember different characters,
but only such as no selector can widen. -/
theorem total_behind (current : Cluster) (a b : Option Char) (text : Text)
    (hLast : a.any hasWiderPicture = b.any hasWiderPicture) :
    total (behind current a text) = current.size + cellsAfter b text := by
  have hSelectorJoiner : pictureSelector ≠ joiner := by decide
  fun_induction behind current a text generalizing b with
  | case1 current a => simp [cellsAfter]
  | case2 current a => simp [cellsAfter, cellsAfter.own, add]
  | case3 current a h =>
      simp [cellsAfter, cellsAfter.own, select, hLast, hSelectorJoiner]
  | case4 current a c hJoiner hSelector hWidth =>
      simp [cellsAfter, cellsAfter.own, add, hJoiner, hSelector, hWidth]
  | case5 current a c hJoiner hSelector hWidth =>
      simp [cellsAfter, cellsAfter.own, hJoiner, hSelector]
  | case6 current a d rest ih =>
      rw [ih b hLast, cellsAfter, if_pos rfl]
      rfl
  | case7 current a d rest hJoiner ih =>
      have hNext : (if a.any hasWiderPicture then none else a).any hasWiderPicture =
          (none : Option Char).any hasWiderPicture := by
        split_ifs with hWider
        · rfl
        · simpa using hWider
      rw [ih none hNext, cellsAfter_cons hSelectorJoiner]
      simp [cellsAfter.own, cellsAfter.next, select, hLast, hSelectorJoiner]
      omega
  | case8 current a c d rest hJoiner hSelector hWidth ih =>
      rw [ih b hLast, cellsAfter_cons hJoiner]
      simp [cellsAfter.own, cellsAfter.next, add, hJoiner, hSelector, hWidth]
  | case9 current a c d rest hJoiner hSelector hWidth ih =>
      rw [total_cons, ih (some c) rfl, cellsAfter_cons hJoiner]
      simp [cellsAfter.own, cellsAfter.next, hJoiner, hSelector, hWidth]

/-- Unless it starts with a joiner, a text takes as many cells in clusters as
it takes as a whole. -/
theorem total_ofText {text : Text} (h : text.head? ≠ some joiner) :
    total (ofText text) = cells text := by
  cases text with
  | nil => rfl
  | cons c rest =>
      have hJoiner : c ≠ joiner := by simpa using h
      have hSelector := cellWidth_pictureSelector
      rw [ofText, cells, cellsAfter_cons hJoiner]
      split_ifs with hFirst
      · rw [total_behind _ none (cellsAfter.next none c) rest (by
          simp only [cellsAfter.next]
          split_ifs <;> simp_all)]
        simp only [cellsAfter.own]
        split_ifs <;> simp_all
      · rw [not_or, not_or] at hFirst
        rw [total_behind _ (some c) (some c) rest rfl]
        simp [cellsAfter.own, cellsAfter.next, hFirst]

/-- Clusters hold the characters of the text in their order. -/
theorem text_behind (current : Cluster) (last : Option Char) (text : Text) :
    (behind current last text).flatMap (·.text) = current.text ++ text := by
  fun_induction behind current last text <;> simp_all [add, select]

theorem text_ofText (text : Text) : (ofText text).flatMap (·.text) = text := by
  cases text with
  | nil => rfl
  | cons c rest =>
      rw [ofText]
      split_ifs
      · exact text_behind _ _ rest
      · exact text_behind _ _ rest

/-- The start of a text that is cut holds nothing new but a blank. -/
theorem mem_take {limit : Nat} {clusters : List Cluster} {c : Char} (h : c ∈ take limit clusters) :
    c ∈ clusters.flatMap (·.text) ∨ c = ' ' := by
  induction clusters generalizing limit with
  | nil => cases h
  | cons cluster clusters ih =>
      rw [take] at h
      rw [List.flatMap_cons, List.mem_append]
      split_ifs at h
      · cases h
      · rcases List.mem_append.mp h with hText | hRest
        · exact Or.inl (Or.inl hText)
        · rcases ih hRest with hRest | hBlank
          · exact Or.inl (Or.inr hRest)
          · exact Or.inr hBlank
      · exact Or.inr (List.mem_singleton.mp h)

/-- Clusters that fit on a line are not taken apart. -/
theorem chop_of_fits {width used : Nat} {line : Text} {clusters : List Cluster}
    (hFits : used + total clusters ≤ width) (hSome : used + total clusters ≠ 0) :
    chop width line used clusters = [line ++ clusters.flatMap (·.text)] := by
  induction clusters generalizing used line with
  | nil =>
      rw [total_nil, Nat.add_zero] at hSome
      rw [chop, if_neg hSome, List.flatMap_nil, List.append_nil]
  | cons cluster clusters ih =>
      rw [total_cons, ← Nat.add_assoc] at hFits hSome
      rw [chop, if_neg (by omega), ih hFits hSome, List.flatMap_cons, List.append_assoc]

end Cluster

theorem chopCells_of_fits {width : Nat} {text : Text}
    (hFits : Cluster.total (Cluster.ofText text) ≤ width)
    (hSome : Cluster.total (Cluster.ofText text) ≠ 0) : chopCells width text = [text] := by
  rw [chopCells, Cluster.chop_of_fits (by rwa [Nat.zero_add]) (by rwa [Nat.zero_add]),
    Cluster.text_ofText, List.nil_append]

/-- There is no place to cut a text that is too wide while its clusters are not. -/
theorem setCells_error {width : Nat} {text : Text} (hWide : width < cells text)
    (hSome : Cluster.total (Cluster.ofText text) ≠ 0)
    (hNarrow : Cluster.total (Cluster.ofText text) < width) :
    setCells width text = .error .tooFewCells := by
  simp only [setCells, cutCells]
  rw [if_neg (by omega), if_neg (by omega), if_neg hSome, if_pos hNarrow]

/-- A text that does not start with a joiner can be cut to any width. -/
theorem setCells_ok {text : Text} (h : text.head? ≠ some joiner) (width : Nat) :
    ∃ shown, setCells width text = .ok shown ∧ ∀ c ∈ shown, c ∈ text ∨ c = ' ' := by
  simp only [setCells]
  split_ifs with hFits
  · refine ⟨_, rfl, ?_⟩
    intro c hc
    rcases List.mem_append.mp hc with hText | hBlank
    · exact Or.inl hText
    · exact Or.inr (List.eq_of_mem_replicate hBlank)
  · have hTotal := Cluster.total_ofText h
    simp only [cutCells]
    split_ifs with hZero hNone hFew
    · exact ⟨[], rfl, by simp⟩
    · omega
    · omega
    · refine ⟨_, rfl, ?_⟩
      intro c hc
      have hMem := Cluster.mem_take hc
      rwa [Cluster.text_ofText] at hMem

end PoolLogin.Text
