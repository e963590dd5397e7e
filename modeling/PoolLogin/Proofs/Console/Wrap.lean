import PoolLogin.Console.Wrap
import PoolLogin.Proofs.Action
import PoolLogin.Proofs.Text.Grapheme
import PoolLogin.Proofs.Text.Lines

/-! Lines that are broken where they are too wide. Cutting fails only where
a line or a piece of one starts with a joiner, so a text without joiners can
always be printed. -/

namespace PoolLogin.Console

open Text

/-! ### What lines are made of -/

section

variable {α : Type} {char : α → Char} {blank : α}

theorem mem_expandParts {position : Nat} {parts : List (List α)} {a : α}
    (h : a ∈ expandParts char blank position parts) : (∃ part ∈ parts, a ∈ part) ∨ a = blank := by
  induction parts generalizing position with
  | nil => cases h
  | cons part parts ih =>
      cases parts with
      | nil => exact Or.inl ⟨part, List.mem_cons_self, h⟩
      | cons next parts =>
          simp only [expandParts, List.mem_append, List.mem_singleton, List.mem_replicate] at h
          rcases h with ((hPart | hBlank) | hBlank) | hRest
          · exact Or.inl ⟨part, List.mem_cons_self, hPart⟩
          · exact Or.inr hBlank
          · exact Or.inr hBlank.2
          · rcases ih hRest with ⟨other, hOther, ha⟩ | hBlank
            · exact Or.inl ⟨other, List.mem_cons_of_mem part hOther, ha⟩
            · exact Or.inr hBlank

/-- Expanding tabs brings nothing but blanks into a line. -/
theorem mem_expandTabsIn {line : List α} {a : α} (h : a ∈ expandTabsIn char blank line) :
    a ∈ line ∨ a = blank := by
  rcases mem_expandParts h with ⟨part, hPart, ha⟩ | hBlank
  · exact Or.inl (mem_splitAt hPart a ha).1
  · exact Or.inr hBlank

theorem mem_portions {sizes : List Nat} {line portion : List α}
    (h : portion ∈ portions sizes line) : ∀ a ∈ portion, a ∈ line := by
  induction sizes generalizing line with
  | nil => cases h
  | cons size sizes ih =>
      intro a ha
      rw [portions, List.mem_cons] at h
      rcases h with rfl | h
      · exact List.mem_of_mem_take ha
      · exact List.mem_of_mem_drop (ih h a ha)

end

/-- Pieces that stand side by side are the line. -/
theorem flatten_pieces (line : List (Char × Bool)) : (pieces line).flatten = line.map (·.1) := by
  induction line with
  | nil => rfl
  | cons head rest ih =>
      obtain ⟨c, isCut⟩ := head
      rw [pieces, List.map_cons, ← ih]
      cases pieces rest with
      | nil => rfl
      | cons piece later =>
          simp only
          split_ifs <;> rfl

/-! ### Cutting -/

/-- A text without joiners. -/
def NoJoiner (text : Text) : Prop := joiner ∉ text

theorem NoJoiner.head? {text : Text} (h : NoJoiner text) : text.head? ≠ some joiner := by
  intro hHead
  exact h (List.mem_of_head? hHead)

theorem fit_ok {line : Text} (h : NoJoiner line) (width : Nat) :
    ∃ shown, fit .fold width line = .ok shown ∧ NoJoiner shown := by
  rw [fit]
  split_ifs
  · exact ⟨line, rfl, h⟩
  · obtain ⟨shown, hShown, hMem⟩ := setCells_ok h.head? width
    refine ⟨shown, hShown, ?_⟩
    intro hJoiner
    rcases hMem joiner hJoiner with hLine | hBlank
    · exact h hLine
    · exact joiner_ne_blank hBlank

theorem cropFrom_ok (width : Nat) {pieces : List Text} (h : ∀ piece ∈ pieces, NoJoiner piece)
    (used : Nat) : ∃ shown, cropFrom width used pieces = .ok shown := by
  induction pieces generalizing used with
  | nil => exact ⟨[], rfl⟩
  | cons piece rest ih =>
      simp only [cropFrom]
      split_ifs
      · obtain ⟨shown, hShown⟩ := ih
          (fun other hOther => h other (List.mem_cons_of_mem piece hOther)) (used + cells piece)
        exact ⟨piece :: shown, by rw [hShown]; rfl⟩
      · obtain ⟨shown, hShown, _⟩ := setCells_ok (h piece List.mem_cons_self).head? (width - used)
        exact ⟨[shown], by rw [hShown]; rfl⟩

theorem crop_ok (width : Nat) {pieces : List Text} (h : ∀ piece ∈ pieces, NoJoiner piece) :
    ∃ shown, crop width pieces = .ok shown := by
  rw [crop]
  split_ifs
  · exact ⟨pieces, rfl⟩
  · exact cropFrom_ok width h 0

/-- A line without joiners can be broken, wherever it is cut. -/
theorem wrapLine_ok {line : List (Char × Bool)} (h : ∀ a ∈ line, a.1 ≠ joiner) :
    ∃ shown, wrapLine line = .ok shown := by
  simp only [wrapLine]
  apply Action.exists_mapM_ok
  intro portion hPortion
  have hMem : NoJoiner (portion.map (·.1)) := by
    intro hJoiner
    obtain ⟨a, ha, hEq⟩ := List.mem_map.mp hJoiner
    rcases mem_expandTabsIn (mem_portions hPortion a ha) with hLine | rfl
    · exact h a hLine hEq
    · exact joiner_ne_blank hEq.symm
  have hKept : NoJoiner (dropExcessBlanks lineWidth (portion.map (·.1))) := by
    intro hJoiner
    exact hMem (List.mem_of_mem_take hJoiner)
  obtain ⟨text, hText, hNoJoiner⟩ := fit_ok hKept lineWidth
  have hPieces : ∀ piece ∈ pieces (text.zip (portion.map (·.2))), NoJoiner piece := by
    intro piece hPiece hJoiner
    have hFlat : joiner ∈ (pieces (text.zip (portion.map (·.2)))).flatten :=
      List.mem_flatten.mpr ⟨piece, hPiece, hJoiner⟩
    rw [flatten_pieces] at hFlat
    obtain ⟨a, ha, hEq⟩ := List.mem_map.mp hFlat
    apply hNoJoiner
    rw [← hEq]
    exact (List.of_mem_zip ha).1
  obtain ⟨shown, hShown⟩ := crop_ok lineWidth hPieces
  refine ⟨shown.flatten, ?_⟩
  rw [hText]
  change (crop lineWidth (pieces (text.zip (portion.map Prod.snd))) >>= fun shown =>
    pure shown.flatten) = _
  rw [hShown]
  rfl

theorem mem_cuts {text : Text} {a : Char × Bool} (h : a ∈ Highlight.cuts text) : a.1 ∈ text :=
  (List.of_mem_zip h).1

/-- A text without joiners can be printed, and ends in a newline then. -/
theorem printWrapped_ok {text : Text} (h : joiner ∉ text) :
    ∃ shown, printWrapped text = .ok (shown ++ ['\n']) := by
  simp only [printWrapped]
  have hLines : ∃ lines, (splitAt (·.1 == '\n') (Highlight.cuts (dropControls text))).mapM
      wrapLine = .ok lines := by
    apply Action.exists_mapM_ok
    intro line hLine
    apply wrapLine_ok
    intro a ha hJoiner
    have hMem := mem_cuts (mem_splitAt hLine a ha).1
    rw [hJoiner] at hMem
    exact h (List.mem_filter.mp hMem).1
  obtain ⟨lines, hLines⟩ := hLines
  exact ⟨joinWith ['\n'] lines.flatten, by rw [hLines]; rfl⟩

end PoolLogin.Console
