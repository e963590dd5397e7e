import Mathlib.Data.List.Basic
import PoolLogin.Yaml.Scalar
import PoolLogin.Yaml.Token.Plain

/-! The word for nothing as a YAML scalar. Between brackets it ends where a comma
stands behind it, or a line break and the bracket that closes. -/

namespace PoolLogin.Yaml

theorem atDocumentMark_of_ne {mark c : Char} (h : c ≠ mark) (rest : Text) :
    atDocumentMark mark (c :: rest) = false := by
  match rest with
  | [] => rfl
  | [_] => rfl
  | _ :: _ :: _ => simp [atDocumentMark, h]

namespace Plain

/-- What stands behind a word between brackets: a comma, or on another line the bracket that closes
them. -/
def EndsWord (rest : Text) : Prop :=
  (∃ others, rest = ',' :: others) ∨
    ∃ count closing others, rest = '\n' :: (List.replicate count ' ' ++ closing :: others) ∧
      (closing = ']' ∨ closing = '\x7d')

theorem gapLines_blanks (column count : Nat) {c : Char} (hc : c = ']' ∨ c = '\x7d') (rest : Text) :
    gapLines column (List.replicate count ' ' ++ c :: rest) = (some [], count, column + count) := by
  induction count generalizing column with
  | zero =>
      have hMark : atAnyDocumentMark (c :: rest) = false := by
        rcases hc with rfl | rfl <;>
          simp [atAnyDocumentMark, atDocumentMark_of_ne]
      rcases hc with rfl | rfl <;>
        simp [gapLines, hMark, isBreak, lineSeparator, paragraphSeparator]
  | succ count ih =>
      have hMark : atAnyDocumentMark (' ' :: (List.replicate count ' ' ++ c :: rest)) = false := by
        simp [atAnyDocumentMark, atDocumentMark_of_ne]
      have hColumn : column + 1 + count = column + (count + 1) := by omega
      rw [List.replicate_succ, List.cons_append, gapLines, hMark]
      simp [ih, isBreak, lineSeparator, paragraphSeparator, hColumn]

/-- The gap in front of a closing bracket on another line. -/
theorem gap_newline (count : Nat) {c : Char} (hc : c = ']' ∨ c = '\x7d') (rest : Text) :
    gap ('\n' :: (List.replicate count ' ' ++ c :: rest)) =
      { text := [' '], size := count + 1, column := some count } := by
  have hSize : 0 + 1 + count = count + 1 := by omega
  have hLines := gapLines_blanks 0 count hc rest
  rw [Nat.zero_add] at hLines
  change ({ text := _, size := 0 + 1 + (gapLines 0 _).2.1
            column := some (gapLines 0 _).2.2 } : Gap) = _
  rw [hLines, hSize]
  rfl

theorem scan_cons {c : Char} {rest : Text} (h : ends true c rest = false) (indent : Nat) :
    scan true indent 0 (c :: rest) = (scan true indent 0 rest).after [c] 1 := by
  rw [scan, h, if_neg Bool.false_ne_true]

/-- A word is read up to what ends it, with the gap in front of that. -/
theorem scan_null {rest : Text} (h : EndsWord rest) (indent : Nat) :
    ∃ gap after, rest = gap ++ after ∧ (∀ c ∈ gap, c = ' ' ∨ c = '\n') ∧
      (scan true indent 0 ("null".toList ++ rest)).text = "null".toList ∧
      (scan true indent 0 ("null".toList ++ rest)).size = ("null".toList ++ gap).length := by
  have hWord : scan true indent 0 ("null".toList ++ rest) =
      ((((scan true indent 0 rest).after ['l'] 1).after ['l'] 1).after ['u'] 1).after ['n'] 1 := by
    change scan true indent 0 ('n' :: 'u' :: 'l' :: 'l' :: rest) = _
    rw [scan_cons rfl, scan_cons rfl, scan_cons rfl, scan_cons rfl]
  rw [hWord]
  rcases h with ⟨others, rfl⟩ | ⟨count, closing, others, rfl, hClosing⟩
  · exact ⟨[], ',' :: others, rfl, by simp, rfl, rfl⟩
  · have hEnds : ends true closing others = true := by
      rcases hClosing with rfl | rfl <;> simp [ends, isFlowIndicator]
    have hScan : scan true indent 0 ('\n' :: (List.replicate count ' ' ++ closing :: others)) =
        { text := [], size := count + 1, broken := true } := by
      have hDrop : ('\n' :: (List.replicate count ' ' ++ closing :: others)).drop (count + 1) =
          closing :: others := by
        rw [List.drop_succ_cons, List.drop_left' List.length_replicate]
      have hBreak : ∀ rest, ends true '\n' rest = true := fun _ => rfl
      rw [scan, if_pos (hBreak _), gap_newline count hClosing others]
      simp only [hDrop, goesOn, hEnds]
      simp
    refine ⟨'\n' :: List.replicate count ' ', closing :: others, rfl, by simp, ?_, ?_⟩
    · rw [hScan]
      rfl
    · rw [hScan]
      simp [Scanned.after]
      omega

end Plain

end PoolLogin.Yaml
