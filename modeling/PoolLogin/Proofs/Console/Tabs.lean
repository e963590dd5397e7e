import Mathlib.Data.List.Infix
import PoolLogin.Proofs.Console.Line
import PoolLogin.Proofs.Text.Grapheme
import PoolLogin.Proofs.Text.Split

/-! Tabs on the console. Behind every tab a line stands at a multiple of eight
cells, so a stretch between two tabs is set as if it were the start of a line.
A blank behind a joiner takes no cell. Apart from that a tab takes the line to
the next tab stop. -/

namespace PoolLogin.Console

open Text

def blanks (count : Nat) : Text := List.replicate count ' '

theorem blanks_succ (count : Nat) : blanks (count + 1) = ' ' :: blanks count := rfl

/-! ### Cells -/

theorem getLast?_blank_ne (text : Text) : (text ++ [' ']).getLast? ≠ some joiner := by
  rw [List.getLast?_concat]
  exact fun hSame => joiner_ne_blank (Option.some.inj hSame).symm

/-- Behind a text that does not end in a joiner, blanks take a cell each. -/
theorem cells_append_blanks {text : Text} (h : text.getLast? ≠ some joiner) {count : Nat}
    (hCount : 1 ≤ count) (rest : Text) :
    cells (text ++ blanks count ++ rest) = cells text + count + cells rest := by
  induction count, hCount using Nat.le_induction generalizing text with
  | base =>
      rw [List.append_assoc]
      exact cells_append_blank h rest
  | succ count hCount ih =>
      have hFirst : cells (text ++ [' ']) = cells text + 1 := cells_append_blank h []
      rw [blanks_succ, ← List.singleton_append, ← List.append_assoc, ih (getLast?_blank_ne text),
        hFirst]
      omega

/-- Whatever a text ends in, all blanks behind it but the first take a cell each. -/
theorem cells_append_blanks_succ (text : Text) (count : Nat) :
    cells (text ++ blanks (count + 1)) = cells (text ++ [' ']) + count := by
  rw [blanks_succ, ← List.singleton_append, ← List.append_assoc]
  cases count with
  | zero => rw [blanks, List.replicate_zero, List.append_nil, Nat.add_zero]
  | succ count =>
      have hCells := cells_append_blanks (getLast?_blank_ne text) (Nat.le_add_left 1 count) []
      rw [List.append_nil] at hCells
      exact hCells

/-! ### Tab stops -/

theorem blanksToStop_add {n : Nat} (h : 8 ∣ n) (m : Nat) :
    blanksToStop (n + m) = blanksToStop m := by
  rw [blanksToStop, blanksToStop, tabSize]
  omega

theorem dvd_add_blanksToStop (n : Nat) : 8 ∣ n + blanksToStop n := by
  rw [blanksToStop, tabSize]
  omega

/-- How many blanks stand for a tab behind a stretch of a line. -/
def tabBlanks (stretch : Text) : Nat := blanksToStop (cells (stretch ++ [' '])) + 1

theorem one_le_tabBlanks (stretch : Text) : 1 ≤ tabBlanks stretch := Nat.le_add_left 1 _

theorem tabBlanks_le (stretch : Text) : tabBlanks stretch ≤ 8 := by
  rw [tabBlanks, blanksToStop, tabSize]
  omega

/-- The blanks for a tab fill a stretch up to a multiple of eight cells, and no fewer blanks do. -/
theorem dvd_cells_iff_of_le {stretch : Text} {count : Nat} (hPos : 1 ≤ count)
    (hCount : count ≤ tabBlanks stretch) :
    8 ∣ cells (stretch ++ blanks count) ↔ count = tabBlanks stretch := by
  obtain ⟨more, rfl⟩ := Nat.exists_eq_add_of_le' hPos
  rw [tabBlanks, blanksToStop, tabSize] at *
  rw [cells_append_blanks_succ]
  omega

/-- Where no joiner stands in front of a tab, it leads to the next tab stop. -/
theorem cells_add_tabBlanks {stretch : Text} (h : stretch.getLast? ≠ some joiner) :
    cells stretch + tabBlanks stretch = 8 * (cells stretch / 8 + 1) := by
  have hBlank : cells (stretch ++ [' ']) = cells stretch + 1 := cells_append_blank h []
  rw [tabBlanks, hBlank, blanksToStop, tabSize]
  omega

/-! ### Lines -/

/-- From every tab stop on a line is set in the same way. -/
theorem expandParts_of_dvd {position : Nat} (h : 8 ∣ position) (parts : List Text) :
    expandParts id ' ' position parts = expandParts id ' ' 0 parts := by
  induction parts generalizing position with
  | nil => rfl
  | cons part parts ih =>
      cases parts with
      | nil => rfl
      | cons next parts =>
          have hStop := dvd_add_blanksToStop (cells ((part ++ [' ']).map id))
          simp only [expandParts, Nat.zero_add]
          rw [blanksToStop_add h, Nat.add_assoc, ih (Nat.dvd_add h hStop), ih hStop]

/-- The first tab of a line becomes blanks, and what stands behind it is set
as if it were a line of its own. -/
theorem expandTabs_append_tab {stretch : Text} (h : '\t' ∉ stretch) (after : Text) :
    expandTabs (stretch ++ '\t' :: after) =
      stretch ++ blanks (tabBlanks stretch) ++ expandTabs after := by
  obtain ⟨next, parts, hParts⟩ := List.exists_cons_of_ne_nil
    (splitAt_ne_nil (fun c => id c == '\t') after)
  have hStretch : splitAt (fun c => id c == '\t') stretch = [stretch] :=
    splitAt_of_none fun c hc => beq_eq_false_iff_ne.mpr (ne_of_mem_of_not_mem hc h)
  rw [expandTabs, expandTabs, expandTabsIn, expandTabsIn, splitAt_append_cons stretch (by rfl),
    hStretch, hParts, List.singleton_append, expandParts, List.map_id, Nat.zero_add,
    expandParts_of_dvd (dvd_add_blanksToStop _), tabBlanks, blanks_succ]
  · simp [blanks]
  · exact List.cons_ne_nil next parts

/-- Every tab of a line becomes blanks that take it to the next tab stop, if no joiner stands in
front of that tab or of one before it. -/
theorem exists_blanks_of_tab {before : Text} (h : ¬[joiner, '\t'] <:+: before ++ ['\t'])
    (after : Text) :
    ∃ count, 1 ≤ count ∧ count ≤ 8 ∧
      expandTabs (before ++ '\t' :: after) = expandTabs before ++ blanks count ++ expandTabs after ∧
      cells (expandTabs before) + count = 8 * (cells (expandTabs before) / 8 + 1) := by
  have hLast : ∀ {stretch rest : Text}, before ++ ['\t'] = stretch ++ '\t' :: rest →
      stretch.getLast? ≠ some joiner := by
    intro stretch rest hBefore hJoiner
    obtain ⟨start, rfl⟩ := List.getLast?_eq_some_iff.mp hJoiner
    exact h ⟨start, rest, by rw [hBefore]; simp⟩
  rcases split_cases '\t' before with hPlain | ⟨stretch, rest, hPlain, rfl⟩
  · refine ⟨tabBlanks before, one_le_tabBlanks before, tabBlanks_le before, ?_, ?_⟩
    · rw [expandTabs_append_tab hPlain, expandTabs_of_notMem hPlain]
    · rw [expandTabs_of_notMem hPlain]
      exact cells_add_tabBlanks (hLast rfl)
  · have hStretch : stretch.getLast? ≠ some joiner :=
      hLast (List.append_assoc stretch ('\t' :: rest) ['\t'])
    have hRest : ¬[joiner, '\t'] <:+: rest ++ ['\t'] := fun hInfix =>
      h (hInfix.trans ⟨stretch ++ ['\t'], [], by simp⟩)
    obtain ⟨count, hPos, hLe, hSet, hStop⟩ := exists_blanks_of_tab hRest after
    have hCells := cells_append_blanks hStretch (one_le_tabBlanks stretch) (expandTabs rest)
    have hFirst := cells_add_tabBlanks hStretch
    refine ⟨count, hPos, hLe, ?_, ?_⟩
    · rw [List.append_assoc, List.cons_append, expandTabs_append_tab hPlain, hSet,
        expandTabs_append_tab hPlain]
      simp only [List.append_assoc]
    · rw [expandTabs_append_tab hPlain, hCells]
      omega
termination_by before.length

/-- How tabs are set in a line. A tab becomes the fewest blanks, but one at
least, that fill up the stretch in front of it to a multiple of eight cells, and
what stands behind it is set like a line of its own. So the tab leads to the
next tab stop, if no joiner stands in front of it or of a tab before it. -/
structure SetsTabs (set : Text → Text) : Prop where
  plain : ∀ line, '\t' ∉ line → set line = line
  fills : ∀ stretch after, '\t' ∉ stretch → ∃ count, 1 ≤ count ∧ count ≤ 8 ∧
    set (stretch ++ '\t' :: after) = stretch ++ blanks count ++ set after ∧
    ∀ fewer, 1 ≤ fewer → fewer ≤ count →
      (8 ∣ cells (stretch ++ blanks fewer) ↔ fewer = count)
  stops : ∀ before after, ¬[joiner, '\t'] <:+: before ++ ['\t'] → ∃ count, 1 ≤ count ∧ count ≤ 8 ∧
    set (before ++ '\t' :: after) = set before ++ blanks count ++ set after ∧
    cells (set before) + count = 8 * (cells (set before) / 8 + 1)

theorem setsTabs_expandTabs : SetsTabs expandTabs where
  plain _ := expandTabs_of_notMem
  fills stretch after h :=
    ⟨tabBlanks stretch, one_le_tabBlanks stretch, tabBlanks_le stretch,
      expandTabs_append_tab h after, fun _ hPos hLe => dvd_cells_iff_of_le hPos hLe⟩
  stops _ after h := exists_blanks_of_tab h after

/-! ### Texts -/

/-- What the console makes of a text, line by line. -/
def typeset (text : Text) : Text :=
  joinWith ['\n'] ((splitLines (dropControls text)).map expandTabs)

theorem typeset_append_newline (text rest : Text) :
    typeset (text ++ ['\n'] ++ rest) = typeset text ++ ['\n'] ++ typeset rest := by
  have hControls : dropControls (text ++ ['\n'] ++ rest) =
      dropControls text ++ ['\n'] ++ dropControls rest := by
    simp only [dropControls, List.filter_append]
    rfl
  have hNonempty : ∀ text, (splitLines text).map expandTabs ≠ [] := fun text hNil =>
    splitAt_ne_nil _ text (List.map_eq_nil_iff.mp hNil)
  rw [typeset, hControls, splitLines_append_newline, List.map_append,
    joinWith_append _ (hNonempty _) (hNonempty _)]
  rfl

/-- Texts that are printed one after another stand on the console like one text. -/
theorem flatMap_print (texts : List Text) :
    texts.flatMap print = typeset (texts.flatMap (· ++ ['\n'])) := by
  induction texts with
  | nil => rfl
  | cons text texts ih =>
      rw [List.flatMap_cons, List.flatMap_cons, typeset_append_newline, ih]
      rfl

end PoolLogin.Console
