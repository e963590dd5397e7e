import Mathlib.Data.List.TakeDrop
import Mathlib.Data.List.TakeWhile
import PoolLogin.Proofs.Console.Line
import PoolLogin.Proofs.Console.Wrap
import PoolLogin.Proofs.Text.Numeral

/-! Plain lines on the console. A line of printable ASCII takes one cell a
character, and if it is not too wide it is printed as it is. -/

namespace PoolLogin.Console

open Text

/-! ### Cells -/

theorem cellWidth_of_plain {c : Char} (h : IsPlain c) : cellWidth c = 1 := by
  simp only [cellWidth]
  rw [if_neg (Nat.not_lt.mpr h.1), if_pos h.2]

theorem cells_of_plain {text : Text} (h : ∀ c ∈ text, IsPlain c) : cells text = text.length := by
  have hAfter : ∀ last, cellsAfter last text = text.length := by
    induction text with
    | nil => exact fun _ => rfl
    | cons c rest ih =>
        intro last
        have hc := h c List.mem_cons_self
        have hJoiner : c ≠ joiner := hc.ne (by decide)
        have hSelector : c ≠ pictureSelector := hc.ne (by decide)
        rw [cellsAfter_cons hJoiner, ih fun d hd => h d (List.mem_cons_of_mem c hd),
          cellsAfter.own, if_neg hJoiner, if_neg hSelector, cellWidth_of_plain hc,
          List.length_cons, Nat.add_comm]
  exact hAfter none

/-! ### Words -/

theorem dropWhile_eq_nil_or {p : Char → Bool} (text : Text) :
    text.dropWhile p = [] ∨ ∃ c rest, text.dropWhile p = c :: rest ∧ p c = false := by
  induction text with
  | nil => exact Or.inl rfl
  | cons c rest ih =>
      rw [List.dropWhile_cons]
      split_ifs with h
      · exact ih
      · exact Or.inr ⟨c, rest, rfl, by simpa using h⟩

theorem takeWhile_append_dropWhile_append {p q : Char → Bool} (text : Text) :
    text.takeWhile p ++ (text.dropWhile p).takeWhile q ++ (text.dropWhile p).dropWhile q =
      text := by
  rw [List.append_assoc, List.takeWhile_append_dropWhile, List.takeWhile_append_dropWhile]

/-- The words of a line are the line, unless it holds nothing but white space. -/
theorem flatten_wordsFrom {fuel : Nat} {text : Text} (hFuel : text.length ≤ fuel) :
    wordsFrom fuel text = [] ∧ allBlank text ∨ (wordsFrom fuel text).flatten = text := by
  induction fuel generalizing text with
  | zero =>
      obtain rfl := List.eq_nil_of_length_eq_zero (Nat.le_zero.mp hFuel)
      exact Or.inr rfl
  | succ fuel ih =>
      simp only [wordsFrom, List.span_eq_takeWhile_dropWhile]
      rcases dropWhile_eq_nil_or (p := isBlank) text with hBlank | ⟨c, rest, hRest, hc⟩
      · rw [hBlank]
        refine Or.inl ⟨rfl, ?_⟩
        rw [allBlank, List.all_eq_true]
        exact List.dropWhile_eq_nil_iff.mp hBlank
      · have hText := takeWhile_append_dropWhile_append (p := isBlank)
          (q := fun c => !isBlank c) text
        rw [hRest] at hText ⊢
        have hInk : (List.takeWhile (fun c => !isBlank c) (c :: rest)).isEmpty = false := by
          simp [hc]
        obtain ⟨later, hLater⟩ :
            ∃ later, later = List.dropWhile (fun c => !isBlank c) (c :: rest) := ⟨_, rfl⟩
        have hShort : (later.dropWhile isBlank).length ≤ fuel := by
          have hAfter := (List.dropWhile_suffix (l := later) isBlank).length_le
          have hWord := (List.dropWhile_suffix (l := rest) fun c => !isBlank c).length_le
          have hStart := (List.dropWhile_suffix (l := text) isBlank).length_le
          rw [hRest, List.length_cons] at hStart
          rw [List.dropWhile_cons, if_pos (by simp [hc])] at hLater
          rw [hLater] at hAfter ⊢
          omega
        rw [← hLater] at hText ⊢
        rw [hInk, if_neg Bool.false_ne_true]
        right
        rw [List.flatten_cons]
        have hFlatten : (wordsFrom fuel (later.dropWhile isBlank)).flatten =
            later.dropWhile isBlank := by
          rcases ih hShort with ⟨hNone, hAll⟩ | hFlatten
          · rcases dropWhile_eq_nil_or (p := isBlank) later with hNil | ⟨d, last, hLast, hd⟩
            · rw [hNone, hNil]
              rfl
            · rw [hLast] at hAll
              simp [allBlank, hd] at hAll
          · exact hFlatten
        rw [hFlatten, List.append_assoc, List.takeWhile_append_dropWhile, hText]

/-! ### Lines that fit -/

theorem length_dropTrailingBlanks_le (text : Text) :
    (dropTrailingBlanks text).length ≤ text.length := by
  rw [dropTrailingBlanks, List.length_reverse]
  exact Nat.le_trans (List.dropWhile_suffix _).length_le (Nat.le_of_eq List.length_reverse)

theorem mem_dropTrailingBlanks {text : Text} {c : Char} (h : c ∈ dropTrailingBlanks text) :
    c ∈ text := by
  rw [dropTrailingBlanks, List.mem_reverse] at h
  exact List.mem_reverse.mp ((List.dropWhile_suffix _).mem h)

/-- Words that fit stay on one line, whatever comes after them. -/
theorem fill_append_of_fits {overflow : Overflow} {width used : Nat} {line : Text}
    {words : List Text} (hPlain : ∀ word ∈ words, ∀ c ∈ word, IsPlain c)
    (hFits : used + words.flatten.length ≤ width) (more : List Text) :
    fill overflow width used line (words ++ more) =
      fill overflow width (used + words.flatten.length) (line ++ words.flatten) more := by
  induction words generalizing used line with
  | nil => simp
  | cons word words ih =>
      have hWord := hPlain word List.mem_cons_self
      have hTrimmed := cells_of_plain fun c hc => hWord c (mem_dropTrailingBlanks hc)
      have hLength := length_dropTrailingBlanks_le word
      rw [List.flatten_cons, List.length_append] at hFits
      rw [List.cons_append]
      simp only [fill]
      rw [hTrimmed, cells_of_plain hWord, if_pos ⟨by omega, by omega⟩,
        ih (fun other hOther => hPlain other (List.mem_cons_of_mem word hOther)) (by omega),
        List.flatten_cons, List.append_assoc, List.length_append, Nat.add_assoc]

theorem fill_of_fits {overflow : Overflow} {width used : Nat} {line : Text} {words : List Text}
    (hPlain : ∀ word ∈ words, ∀ c ∈ word, IsPlain c) (hFits : used + words.flatten.length ≤ width) :
    fill overflow width used line words = [line ++ words.flatten] :=
  calc
    fill overflow width used line words = fill overflow width used line (words ++ []) := by
      rw [List.append_nil]
    _ = [line ++ words.flatten] := fill_append_of_fits hPlain hFits []

theorem breakLine_of_fits {overflow : Overflow} {width : Nat} {line : Text}
    (hPlain : ∀ c ∈ line, IsPlain c) (hFits : line.length ≤ width) :
    breakLine overflow width line = [line] := by
  rw [breakLine]
  rcases flatten_wordsFrom (Nat.le_refl line.length) with ⟨hNone, _⟩ | hFlatten
  · rw [words, hNone]
  · cases hWords : words line with
    | nil => rfl
    | cons word later =>
        rw [words] at hWords
        rw [hWords] at hFlatten
        have hMem : ∀ other ∈ word :: later, ∀ c ∈ other, IsPlain c := by
          intro other hOther c hc
          apply hPlain
          rw [← hFlatten]
          exact List.mem_flatten.mpr ⟨other, hOther, hc⟩
        simp only
        rw [fill_of_fits hMem (by rw [hFlatten]; omega), hFlatten]
        rfl

theorem dropExcessBlanks_of_le {width : Nat} {line : Text} (h : line.length ≤ width) :
    dropExcessBlanks width line = line := by
  simp only [dropExcessBlanks]
  rw [Nat.sub_eq_zero_of_le h, Nat.min_zero, Nat.sub_zero, List.take_length]

theorem piecesSize_of_plain {pieces : List Text} (h : ∀ piece ∈ pieces, ∀ c ∈ piece, IsPlain c) :
    piecesSize pieces = pieces.flatten.length := by
  have hFold : ∀ n, pieces.foldl (fun n piece => n + cells piece) n =
      n + pieces.flatten.length := by
    induction pieces with
    | nil => exact fun _ => rfl
    | cons piece pieces ih =>
        intro n
        rw [List.foldl_cons, ih fun other hOther => h other (List.mem_cons_of_mem piece hOther),
          cells_of_plain (h piece List.mem_cons_self), List.flatten_cons, List.length_append]
        omega
  rw [piecesSize, hFold, Nat.zero_add]

/-- A plain portion that fits is not cut. -/
theorem shown_of_fits {portion : List (Char × Bool)} (hPlain : ∀ a ∈ portion, IsPlain a.1)
    (hFits : portion.length ≤ lineWidth) :
    (do
      let text ← fit .fold lineWidth (dropExcessBlanks lineWidth (portion.map (·.1)))
      return (← crop lineWidth (pieces (text.zip (portion.map (·.2))))).flatten) =
        Except.ok (portion.map (·.1)) := by
  have hText : ∀ c ∈ portion.map (·.1), IsPlain c := List.forall_mem_map.mpr hPlain
  have hLength : (portion.map (·.1)).length ≤ lineWidth := by rwa [List.length_map]
  have hFit : fit .fold lineWidth (portion.map (·.1)) = .ok (portion.map (·.1)) := by
    rw [fit, cells_of_plain hText, if_pos hLength]
  have hZip : (portion.map (·.1)).zip (portion.map (·.2)) = portion := by
    rw [← List.unzip_fst, ← List.unzip_snd, List.zip_unzip]
  have hCrop : crop lineWidth (pieces portion) = .ok (pieces portion) := by
    have hPieces : ∀ piece ∈ pieces portion, ∀ c ∈ piece, IsPlain c := by
      intro piece hPiece c hc
      apply hText
      rw [← flatten_pieces]
      exact List.mem_flatten.mpr ⟨piece, hPiece, hc⟩
    rw [crop, piecesSize_of_plain hPieces, flatten_pieces, if_pos hLength]
  simp only [dropExcessBlanks_of_le hLength, hFit, hZip, hCrop, bind, Except.bind, flatten_pieces]
  rfl

/-- A plain line that fits on the console stays as it is, wherever it is cut. -/
theorem wrapLine_of_fits {line : List (Char × Bool)} (hPlain : ∀ a ∈ line, IsPlain a.1)
    (hFits : line.length ≤ lineWidth) : wrapLine line = .ok [line.map (·.1)] := by
  have hTabs : expandTabsIn Prod.fst (' ', false) line = line :=
    expandTabsIn_of_notMem fun a ha => (hPlain a ha).ne (by decide)
  have hBroken : breakLine .fold lineWidth (line.map (·.1)) = [line.map (·.1)] :=
    breakLine_of_fits (List.forall_mem_map.mpr hPlain) (by rwa [List.length_map])
  simp only [wrapLine, hTabs, hBroken, List.map_cons, List.map_nil, portions, List.length_map,
    List.take_length, List.mapM_cons, List.mapM_nil]
  rw [shown_of_fits hPlain hFits]
  rfl

theorem length_foldl_setIfInBounds (places : List Nat) (flags : Array Bool) :
    (places.foldl (fun flags n => flags.setIfInBounds n true) flags).toList.length =
      flags.size := by
  induction places generalizing flags with
  | nil => rfl
  | cons place places ih => rw [List.foldl_cons, ih, Array.size_setIfInBounds]

/-- The characters of a text stay what they are where it is cut. -/
theorem map_cuts (text : Text) : (Highlight.cuts text).map (·.1) = text := by
  simp only [Highlight.cuts]
  apply List.map_fst_zip
  rw [length_foldl_setIfInBounds, Array.size_replicate]

/-- A plain text that fits on a line of the console is printed as that line. -/
theorem printWrapped_of_fits {text : Text} (hPlain : ∀ c ∈ text, IsPlain c)
    (hFits : text.length ≤ lineWidth) : printWrapped text = .ok (text ++ ['\n']) := by
  have hControls : dropControls text = text :=
    dropControls_of_shown fun c hc => isShown_of_le (hPlain c hc).1
  have hCuts : ∀ a ∈ Highlight.cuts text, IsPlain a.1 := fun a ha => hPlain a.1 (mem_cuts ha)
  have hLine : splitAt (·.1 == '\n') (Highlight.cuts text) = [Highlight.cuts text] :=
    splitAt_of_none fun a ha => beq_eq_false_iff_ne.mpr ((hCuts a ha).ne (by decide))
  have hLength : (Highlight.cuts text).length ≤ lineWidth := by
    rw [← List.length_map (·.1), map_cuts]
    exact hFits
  rw [printWrapped, hControls, hLine, List.mapM_cons, wrapLine_of_fits hCuts hLength, map_cuts]
  rfl

end PoolLogin.Console
