import PoolLogin.Proofs.Command.Session
import PoolLogin.Proofs.Console.Unfit
import PoolLogin.Proofs.FileTree.Read

/-! The lines in which a batch counts its names and its rows. The count is
printed in front of the path whatever the path is, if the line can be printed
at all. Only a path with a joiner can keep it from being printed, and an unfit
one does. -/

namespace PoolLogin

/-! ### Paths with joiners -/

namespace Console

theorem mem_dropBracketEscapes {text : Text} {c : Char} (h : c ∈ dropBracketEscapes text) :
    c ∈ text := by
  fun_induction dropBracketEscapes text with
  | case1 => exact h
  | case2 d => exact h
  | case3 d e rest hEscape ih => exact List.mem_cons_of_mem d (ih h)
  | case4 d e rest hEscape ih =>
      rcases List.mem_cons.mp h with rfl | h
      · exact List.mem_cons_self
      · exact List.mem_cons_of_mem d (ih h)

theorem joiner_notMem_shownPath {path : Text} (h : Text.joiner ∉ path) :
    Text.joiner ∉ shownPath path := by
  rw [shownPath, List.mem_append, not_or]
  refine ⟨fun hMem => h (mem_dropBracketEscapes hMem), ?_⟩
  split_ifs <;> decide

end Console

namespace Command

open Text (IsPlain)

/-! ### Counted lines -/

/-- How a line is printed that counts something and then names a path: it starts with the count, and
a plain line that fits on the console is all that is printed. -/
structure Counts (count : Text) (line shown : Text) : Prop where
  start : count.length < Console.lineWidth → count <+: shown
  whole : (∀ c ∈ line, IsPlain c) → line.length ≤ Console.lineWidth → shown = line ++ ['\n']

theorem isPlainWord_natural (n : Nat) : Console.IsPlainWord (Numeral.natural n) := by
  obtain ⟨c, rest, hEq, _⟩ := Numeral.natural_eq_cons n
  refine ⟨by rw [hEq]; exact List.cons_ne_nil c rest, fun d hd => ?_⟩
  refine ⟨Text.isPlain_natural n d hd, ?_⟩
  rintro rfl
  exact absurd (Numeral.isDigit_of_mem_natural ' ' hd) (by decide)

/-- The words that stand around a count. -/
def countWords : List Text :=
  ["Read", "worker", "names", "from", "Wrote", "rows", "to"].map String.toList

theorem isPlainWord_of_mem_countWords {word : Text} (h : word ∈ countWords) :
    Console.IsPlainWord word := by
  have hAll : countWords.all fun word =>
      !word.isEmpty && word.all fun c => decide (IsPlain c ∧ c ≠ ' ') := by decide +kernel
  have hWord := List.all_eq_true.mp hAll word h
  rw [Bool.and_eq_true, Bool.not_eq_true', List.isEmpty_eq_false_iff] at hWord
  exact ⟨hWord.1, fun c hc => of_decide_eq_true (List.all_eq_true.mp hWord.2 c hc)⟩

/-- A number between such words is a plain word as they are. -/
theorem isPlainWord_of_counted {first : Text} {rest : List Text} (hFirst : first ∈ countWords)
    (hRest : rest ⊆ countWords) (count : Nat) :
    ∀ word ∈ first :: Numeral.natural count :: rest, Console.IsPlainWord word := by
  rw [List.forall_mem_cons, List.forall_mem_cons]
  exact ⟨isPlainWord_of_mem_countWords hFirst, isPlainWord_natural count,
    fun word hWord => isPlainWord_of_mem_countWords (hRest hWord)⟩

section

variable {words : List Text} (hWords : ∀ word ∈ words, Console.IsPlainWord word)
  (hSome : words ≠ []) {count line path : Text} (hCount : count = Text.joinWith [' '] words)
  (hLine : line = count ++ ' ' :: Console.shownPath path)

include hSome hCount hLine

theorem counted_eq : line = Console.spaced words ++ Console.shownPath path ∧
    (Console.spaced words).length = count.length + 1 := by
  have hSpaced : count ++ [' '] = Console.spaced words := by
    rw [hCount, Console.joinWith_append_blank hSome]
  rw [← hSpaced, hLine]
  simp

include hWords

/-- A line that counts in plain words is printed with them at its start. -/
theorem counts_of_printWrapped {shown : Text} (hShown : Console.printWrapped line = .ok shown) :
    Counts count line shown := by
  obtain ⟨hStart, hLength⟩ := counted_eq hSome hCount hLine
  constructor
  · intro hFits
    rw [hStart] at hShown
    rw [hCount]
    exact Console.isPrefix_of_printWrapped hWords hSome (by omega) hShown
  · intro hPlain hFits
    exact Except.ok.inj (hShown.symm.trans (Console.printWrapped_of_fits hPlain hFits))

/-- A line that counts in plain words cannot be printed with an unfit path. -/
theorem counted_error (hFits : count.length < Console.lineWidth)
    (hPath : Console.Unfit (Console.shownPath path)) :
    Console.printWrapped line = .error .tooFewCells := by
  obtain ⟨hStart, hLength⟩ := counted_eq hSome hCount hLine
  rw [hStart]
  exact Console.printWrapped_of_unfit hWords hSome (by omega) hPath

omit hSome in
/-- A line that counts in plain words can be printed, if there is no joiner in its path. -/
theorem exists_counted (hPath : Text.joiner ∉ path) :
    ∃ shown, Console.printWrapped line = .ok shown := by
  have hJoiner : Text.joiner ∉ line := by
    rw [hLine, hCount, List.mem_append, List.mem_cons]
    rintro (hWord | hBlank | hShown)
    · exact absurd (Console.isPlain_joinWith hWords _ hWord) (by decide)
    · exact absurd hBlank (by decide)
    · exact Console.joiner_notMem_shownPath hPath hShown
  obtain ⟨shown, hShown⟩ := Console.printWrapped_ok hJoiner
  exact ⟨_, hShown⟩

end

/-! ### The names that have been read -/

/-- What is said of the names that have been read, in front of the path. -/
def readCount (count : Nat) : Text :=
  "Read ".toList ++ Numeral.natural count ++ " worker names from".toList

theorem isPlainWord_read (count : Nat) : ∀ word ∈ "Read".toList :: Numeral.natural count ::
    ["worker", "names", "from"].map String.toList, Console.IsPlainWord word :=
  isPlainWord_of_counted (by simp [countWords]) (by simp [countWords]) count

theorem readCount_eq (count : Nat) :
    readCount count = Text.joinWith [' '] ("Read".toList :: Numeral.natural count ::
      ["worker", "names", "from"].map String.toList) := by
  have hRead : "Read ".toList = "Read".toList ++ [' '] := rfl
  have hNames : " worker names from".toList =
      [' '] ++ "worker".toList ++ [' '] ++ "names".toList ++ [' '] ++ "from".toList := rfl
  unfold readCount
  rw [hRead, hNames]
  simp only [List.map_cons, List.map_nil, Text.joinWith_cons_cons, Text.joinWith_singleton,
    List.append_assoc]

theorem readLine_eq (count : Nat) (input : Path) :
    readLine count input = readCount count ++ ' ' :: Console.shownPath input.toText := by
  have hNames : " worker names from ".toList = " worker names from".toList ++ [' '] := rfl
  unfold readLine readCount
  rw [hNames]
  simp only [List.append_assoc, List.singleton_append]

theorem counts_readLine {count : Nat} {input : Path} {shown : Text}
    (h : Console.printWrapped (readLine count input) = .ok shown) :
    Counts (readCount count) (readLine count input) shown :=
  counts_of_printWrapped (isPlainWord_read count) (List.cons_ne_nil _ _) (readCount_eq count)
    (readLine_eq count input) h

/-- The names that have been read can be told of any path without joiners. -/
theorem exists_readLine (count : Nat) {input : Path} (h : Text.joiner ∉ input.toText) :
    ∃ shown, Console.printWrapped (readLine count input) = .ok shown :=
  exists_counted (isPlainWord_read count) (readCount_eq count) (readLine_eq count input) h

theorem readLine_error {count : Nat} {input : Path}
    (hFits : (readCount count).length < Console.lineWidth)
    (h : Console.Unfit (Console.shownPath input.toText)) :
    Console.printWrapped (readLine count input) = .error .tooFewCells :=
  counted_error (isPlainWord_read count) (List.cons_ne_nil _ _) (readCount_eq count)
    (readLine_eq count input) hFits h

/-! ### The rows that have been written -/

/-- What is said of the rows that have been written, in front of the path. -/
def wroteCount (count : Nat) : Text :=
  "Wrote ".toList ++ Numeral.natural count ++ " rows to".toList

theorem isPlainWord_wrote (count : Nat) : ∀ word ∈ "Wrote".toList :: Numeral.natural count ::
    ["rows", "to"].map String.toList, Console.IsPlainWord word :=
  isPlainWord_of_counted (by simp [countWords]) (by simp [countWords]) count

theorem wroteCount_eq (count : Nat) :
    wroteCount count = Text.joinWith [' '] ("Wrote".toList :: Numeral.natural count ::
      ["rows", "to"].map String.toList) := by
  have hWrote : "Wrote ".toList = "Wrote".toList ++ [' '] := rfl
  have hRows : " rows to".toList = [' '] ++ "rows".toList ++ [' '] ++ "to".toList := rfl
  unfold wroteCount
  rw [hWrote, hRows]
  simp only [List.map_cons, List.map_nil, Text.joinWith_cons_cons, Text.joinWith_singleton,
    List.append_assoc]

theorem wroteLine_eq (count : Nat) (output : Path) :
    wroteLine count output = wroteCount count ++ ' ' :: Console.shownPath output.toText := by
  have hRows : " rows to ".toList = " rows to".toList ++ [' '] := rfl
  unfold wroteLine wroteCount
  rw [hRows]
  simp only [List.append_assoc, List.singleton_append]

theorem counts_wroteLine {count : Nat} {output : Path} {shown : Text}
    (h : Console.printWrapped (wroteLine count output) = .ok shown) :
    Counts (wroteCount count) (wroteLine count output) shown :=
  counts_of_printWrapped (isPlainWord_wrote count) (List.cons_ne_nil _ _)
    (wroteCount_eq count) (wroteLine_eq count output) h

theorem exists_wroteLine (count : Nat) {output : Path} (h : Text.joiner ∉ output.toText) :
    ∃ shown, Console.printWrapped (wroteLine count output) = .ok shown :=
  exists_counted (isPlainWord_wrote count) (wroteCount_eq count) (wroteLine_eq count output) h

end Command

end PoolLogin
