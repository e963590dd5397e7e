import PoolLogin.Command.Run
import PoolLogin.Proofs.FileTree.Read
import PoolLogin.Proofs.Text.Pieces

/-! Names in a file. A name ends at a newline, at a carriage return or at the
two together, and nothing that stands before its end is taken off it. -/

namespace PoolLogin

namespace Text

/-! ### Kinds of newlines -/

/-- Newlines are unified in two texts as in one, unless the texts are cut
between a carriage return and its newline. -/
theorem unifyNewlines_append (before after : Text) :
    unifyNewlines (before ++ after) = unifyNewlines before ++ unifyNewlines after ∨
      ∃ start rest, before = start ++ ['\r'] ∧ after = '\n' :: rest ∧
        unifyNewlines (before ++ after) = unifyNewlines before ++ unifyNewlines rest := by
  fun_induction unifyNewlines before with
  | case1 => exact Or.inl rfl
  | case2 before ih =>
      rcases ih with hApart | ⟨start, rest, rfl, hAfter, hPair⟩
      · left
        rw [List.cons_append, List.cons_append, unifyNewlines, hApart, List.cons_append]
      · refine Or.inr ⟨'\r' :: '\n' :: start, rest, rfl, hAfter, ?_⟩
        rw [List.cons_append, List.cons_append, unifyNewlines, hPair, List.cons_append]
  | case3 c before hNoPair ih =>
      by_cases hCut : c = '\r' ∧ before = [] ∧ ∃ rest, after = '\n' :: rest
      · obtain ⟨rfl, rfl, rest, rfl⟩ := hCut
        exact Or.inr ⟨[], rest, rfl, rfl, rfl⟩
      · have hStep : unifyNewlines (c :: (before ++ after)) =
            (if c = '\r' then '\n' else c) :: unifyNewlines (before ++ after) := by
          rw [unifyNewlines]
          intro rest hc hRest
          cases before with
          | nil => exact hCut ⟨hc, rfl, rest, hRest⟩
          | cons d before => exact hNoPair before hc (by rw [(List.cons.inj hRest).1])
        rw [List.cons_append, hStep]
        rcases ih with hApart | ⟨start, rest, rfl, hAfter, hPair⟩
        · left
          rw [hApart, List.cons_append]
        · refine Or.inr ⟨c :: start, rest, rfl, hAfter, ?_⟩
          rw [hPair, List.cons_append]

/-- Unified, a text holds no carriage return and nothing new but newlines. -/
theorem mem_unifyNewlines {text : Text} {c : Char} (h : c ∈ unifyNewlines text) :
    c = '\n' ∨ c ∈ text ∧ c ≠ '\r' := by
  fun_induction unifyNewlines text with
  | case1 => cases h
  | case2 rest ih =>
      rcases List.mem_cons.mp h with rfl | h
      · exact Or.inl rfl
      · exact (ih h).imp_right fun h => ⟨List.mem_cons_of_mem _ (List.mem_cons_of_mem _ h.1), h.2⟩
  | case3 d rest hNoPair ih =>
      rcases List.mem_cons.mp h with rfl | h
      · split_ifs with hReturn
        · exact Or.inl rfl
        · exact Or.inr ⟨List.mem_cons_self, hReturn⟩
      · exact (ih h).imp_right fun h => ⟨List.mem_cons_of_mem _ h.1, h.2⟩

/-- A text that ends in a newline of any kind. -/
def IsEnded (text : Text) : Prop := ∃ start, text = start ++ ['\n'] ∨ text = start ++ ['\r']

theorem isEnded_of_encode {text : Text} (h : (Utf8.encode text).getLast? = some 0x0A) :
    IsEnded text := by
  obtain ⟨start, rfl⟩ := Utf8.exists_of_getLast?_encode (c := '\n') rfl (by decide) h
  exact ⟨start, Or.inl rfl⟩

theorem IsEnded.append (before : Text) {after : Text} (h : IsEnded after) :
    IsEnded (before ++ after) := by
  obtain ⟨start, rfl | rfl⟩ := h
  · exact ⟨before ++ start, Or.inl (List.append_assoc before start _).symm⟩
  · exact ⟨before ++ start, Or.inr (List.append_assoc before start _).symm⟩

theorem exists_unifyNewlines {text : Text} (h : IsEnded text) :
    ∃ start, unifyNewlines text = start ++ ['\n'] := by
  have hReturn : ∀ start, unifyNewlines (start ++ ['\r']) = unifyNewlines start ++ ['\n'] := by
    intro start
    rcases unifyNewlines_append start ['\r'] with hApart | ⟨_, _, _, hAfter, _⟩
    · exact hApart
    · cases hAfter
  obtain ⟨start, rfl | rfl⟩ := h
  · rcases unifyNewlines_append start ['\n'] with hApart | ⟨before, rest, rfl, hAfter, hPair⟩
    · exact ⟨_, hApart⟩
    · obtain rfl : rest = [] := (List.cons.inj hAfter).2.symm
      refine ⟨unifyNewlines before, ?_⟩
      rw [hPair, hReturn]
      exact List.append_nil _
  · exact ⟨_, hReturn start⟩

/-! ### Ends of lines -/

/-- What a line ends in. -/
inductive Ending
  | newline
  | carriageReturn
  | pair
  deriving DecidableEq, Repr

def Ending.text : Ending → Text
  | .newline => ['\n']
  | .carriageReturn => ['\r']
  | .pair => ['\r', '\n']

theorem Ending.isEnded (ending : Ending) : IsEnded ending.text := by
  cases ending with
  | newline => exact ⟨[], Or.inl rfl⟩
  | carriageReturn => exact ⟨[], Or.inr rfl⟩
  | pair => exact ⟨['\r'], Or.inl rfl⟩

theorem unifyNewlines_append_ending {line : Text} (hLine : '\r' ∉ line) (ending : Ending) :
    unifyNewlines (line ++ ending.text) = line ++ ['\n'] := by
  rcases unifyNewlines_append line ending.text with hApart | ⟨start, _, rfl, _, _⟩
  · rw [hApart, unifyNewlines_of_notMem hLine]
    cases ending <;> rfl
  · simp at hLine

end Text

namespace Command

open Text (Ending IsEnded unifyNewlines splitLines)

/-! ### Names -/

/-- A name that is read from a file of its own line: it is not blank, and it is one line. -/
structure IsLine (name : Text) : Prop where
  ink : ∃ c ∈ name, Text.isBlank c = false
  newline : '\n' ∉ name
  carriageReturn : '\r' ∉ name

instance (name : Text) : Decidable (IsLine name) :=
  decidable_of_iff (name.any (!Text.isBlank ·) ∧ '\n' ∉ name ∧ '\r' ∉ name)
    ⟨fun h => ⟨by simpa [List.any_eq_true] using h.1, h.2.1, h.2.2⟩,
      fun h => ⟨by simpa [List.any_eq_true] using h.ink, h.newline, h.carriageReturn⟩⟩

/-- The lines that are not blank. -/
def inked (lines : List Text) : List Text := lines.filter fun line => !Text.allBlank line

theorem namesIn_eq (text : Text) : namesIn text = inked (splitLines (unifyNewlines text)) := rfl

theorem inked_append (lines others : List Text) :
    inked (lines ++ others) = inked lines ++ inked others :=
  List.filter_append ..

theorem inked_of_isLine {name : Text} (h : IsLine name) : inked [name] = [name] := by
  obtain ⟨c, hc, hInk⟩ := h.ink
  rw [inked, List.filter_eq_self]
  intro line hLine
  rw [List.mem_singleton.mp hLine, Bool.not_eq_true', Text.allBlank, List.all_eq_false]
  exact ⟨c, hc, by simp [hInk]⟩

theorem inked_eq_nil {lines : List Text} (h : ∀ line ∈ lines, Text.allBlank line) :
    inked lines = [] := by
  rw [inked, List.filter_eq_nil_iff]
  intro line hLine
  simp [h line hLine]

/-- The names of a text whose first part ends a line are those of its parts. -/
theorem namesIn_append {before : Text} (h : IsEnded before) (after : Text) :
    namesIn (before ++ after) = namesIn before ++ namesIn after := by
  obtain ⟨start, hStart⟩ := Text.exists_unifyNewlines h
  have hNames : ∀ rest, inked (splitLines (unifyNewlines before ++ rest)) =
      inked (splitLines start) ++ inked (splitLines rest) := by
    intro rest
    rw [hStart, Text.splitLines_append_newline, inked_append]
  have hBefore : namesIn before = inked (splitLines start) := by
    have hNone := hNames []
    rwa [List.append_nil, show inked (splitLines []) = [] from rfl, List.append_nil] at hNone
  rw [namesIn_eq (before ++ after), hBefore]
  rcases Text.unifyNewlines_append before after with hApart | ⟨_, rest, _, rfl, hPair⟩
  · rw [hApart, hNames, namesIn_eq]
  · -- The newline that goes with the carriage return before it is an empty line of its own.
    rw [hPair, hNames]
    rfl

/-- What is read as a name is one. -/
theorem isLine_of_mem_namesIn {text name : Text} (h : name ∈ namesIn text) : IsLine name := by
  obtain ⟨hLine, hInk⟩ := List.mem_filter.mp h
  have hMem := Text.mem_splitAt hLine
  rw [Bool.not_eq_true', Text.allBlank, List.all_eq_false] at hInk
  obtain ⟨c, hc, hBlank⟩ := hInk
  refine ⟨⟨c, hc, Bool.eq_false_iff.mpr hBlank⟩, ?_, ?_⟩
  · intro hNewline
    cases (hMem '\n' hNewline).2
  · intro hReturn
    rcases Text.mem_unifyNewlines (hMem '\r' hReturn).1 with hNewline | ⟨_, hReturn⟩
    · cases hNewline
    · exact hReturn rfl

theorem namesIn_of_allBlank {text : Text} (h : Text.allBlank text) : namesIn text = [] := by
  apply inked_eq_nil
  intro line hLine
  rw [Text.allBlank, List.all_eq_true]
  intro c hc
  rcases Text.mem_unifyNewlines (Text.mem_splitAt hLine c hc).1 with rfl | ⟨hMem, _⟩
  · rfl
  · exact List.all_eq_true.mp h c hMem

section

variable {name : Text} (h : IsLine name)

include h

theorem namesIn_of_isLine : namesIn name = [name] := by
  rw [namesIn_eq, Text.unifyNewlines_of_notMem h.carriageReturn,
    Text.splitLines_of_notMem h.newline, inked_of_isLine h]

theorem namesIn_append_ending (ending : Ending) : namesIn (name ++ ending.text) = [name] := by
  have hSplit := Text.splitLines_append_newline name []
  rw [List.append_nil] at hSplit
  rw [namesIn_eq, Text.unifyNewlines_append_ending h.carriageReturn, hSplit, inked_append,
    Text.splitLines_of_notMem h.newline, inked_of_isLine h]
  rfl

end

/-! ### Files of names -/

/-- Names one after another with an end behind each, of any kind. The last may
go without one, and blank lines may stand anywhere between. -/
inductive Listing : List Text → Text → Prop
  | rest (text : Text) (hBlank : Text.allBlank text) : Listing [] text
  | last (name : Text) (hName : IsLine name) : Listing [name] name
  | blank {names : List Text} {text : Text} (line : Text) (hBlank : Text.allBlank line)
      (ending : Ending) (hText : Listing names text) : Listing names (line ++ ending.text ++ text)
  | name {names : List Text} {text : Text} (name : Text) (hName : IsLine name)
      (ending : Ending) (hText : Listing names text) :
      Listing (name :: names) (name ++ ending.text ++ text)

theorem namesIn_of_listing {names : List Text} {text : Text} (h : Listing names text) :
    namesIn text = names := by
  induction h with
  | rest text hBlank => exact namesIn_of_allBlank hBlank
  | last name hName => exact namesIn_of_isLine hName
  | blank line hBlank ending _ ih =>
      have hLine : Text.allBlank (line ++ ending.text) := by
        rw [Text.allBlank, List.all_append, Bool.and_eq_true]
        exact ⟨hBlank, by cases ending <;> rfl⟩
      rw [namesIn_append (ending.isEnded.append line), namesIn_of_allBlank hLine, ih,
        List.nil_append]
  | name name hName ending _ ih =>
      rw [namesIn_append (ending.isEnded.append name), namesIn_append_ending hName, ih,
        List.singleton_append]

section

variable {tree : FileTree} {path : Path}

theorem readNames_of_content? {content : Bytes} {text : Text}
    (hFile : tree.content? path = some content) (hText : Utf8.decode content = .ok text) :
    readNames tree path = .ok (namesIn text) := by
  rw [readNames, FileTree.findFile_of_content? hFile]
  simp only [hText]

theorem readNames_of_encode {text : Text} (hFile : tree.content? path = some (Utf8.encode text)) :
    readNames tree path = .ok (namesIn text) :=
  readNames_of_content? hFile (Utf8.decode_encode text)

/-- Bytes that are no text are refused. -/
theorem readNames_of_illFormed {content : Bytes} (hFile : tree.content? path = some content)
    (hNone : ∀ text, content ≠ Utf8.encode text) :
    readNames tree path = .error (.refused (.inputNotUtf8 path)) := by
  rw [readNames, FileTree.findFile_of_content? hFile]
  cases hText : Utf8.decode content with
  | ok text => exact absurd (Utf8.decode_eq_ok_iff.mp hText) (hNone text)
  | error fault => simp only [hText]

/-- A file of names is read as these names, whatever ends its lines. Of any
file that is a text the names are lines that are not blank, and two such files
put together hold the names of both if the first ends in a newline. A file
that is no text is refused. -/
theorem names_of_file {content : Bytes} (hFile : tree.content? path = some content) :
    (∀ names text, Listing names text → content = Utf8.encode text →
      readNames tree path = .ok names) ∧
    (∀ text, content = Utf8.encode text →
      ∃ names, readNames tree path = .ok names ∧ ∀ name ∈ names, IsLine name) ∧
    (∀ first second (before after : Text), tree.content? first = some (Utf8.encode before) →
      (Utf8.encode before).getLast? = some 0x0A →
      tree.content? second = some (Utf8.encode after) →
      content = Utf8.encode before ++ Utf8.encode after →
      ∃ names others, readNames tree first = .ok names ∧ readNames tree second = .ok others ∧
        readNames tree path = .ok (names ++ others)) ∧
    ((∀ text, content ≠ Utf8.encode text) →
      readNames tree path = .error (.refused (.inputNotUtf8 path))) := by
  refine ⟨?_, ?_, ?_, readNames_of_illFormed hFile⟩
  · rintro names text hListing rfl
    rw [readNames_of_encode hFile, namesIn_of_listing hListing]
  · rintro text rfl
    exact ⟨_, readNames_of_encode hFile, fun name => isLine_of_mem_namesIn⟩
  · intro first second before after hFirst hEnd hSecond hBoth
    refine ⟨_, _, readNames_of_encode hFirst, readNames_of_encode hSecond, ?_⟩
    rw [hBoth, ← Utf8.encode_append] at hFile
    rw [readNames_of_encode hFile, namesIn_append (Text.isEnded_of_encode hEnd)]

/-- Two files with blank lines and lines of all ends, put together, and one that is no text. -/
theorem names_of_file_of_four :
    let before := " a.b\t\r\n\u3000 \ry\u2028\r\n\n".toList
    let after := "\t\r\n\ufeffz\u0085".toList
    let tree : FileTree := { entries := [(.ofText "first".toList, .file (Utf8.encode before)),
      (.ofText "second".toList, .file (Utf8.encode after)),
      (.ofText "both".toList, .file (Utf8.encode before ++ Utf8.encode after)),
      (.ofText "none".toList, .file [0x61, 0xFF])] }
    readNames tree (.ofText "first".toList) = .ok [" a.b\t".toList, "y\u2028".toList] ∧
    readNames tree (.ofText "second".toList) = .ok ["\ufeffz\u0085".toList] ∧
    readNames tree (.ofText "both".toList) =
      .ok [" a.b\t".toList, "y\u2028".toList, "\ufeffz\u0085".toList] ∧
    readNames tree (.ofText "none".toList) =
      .error (.refused (.inputNotUtf8 (.ofText "none".toList))) := by
  intro before after tree
  have hFirst : Listing [" a.b\t".toList, "y\u2028".toList] before :=
    .name " a.b\t".toList (by decide +kernel) .pair
      (.blank "\u3000 ".toList (by decide +kernel) .carriageReturn
        (.name "y\u2028".toList (by decide +kernel) .pair (.rest ['\n'] rfl)))
  have hSecond : Listing ["\ufeffz\u0085".toList] after :=
    .blank ['\t'] (by decide +kernel) .pair (.last "\ufeffz\u0085".toList (by decide +kernel))
  have hFirstFile : tree.content? (.ofText "first".toList) = some (Utf8.encode before) := rfl
  have hSecondFile : tree.content? (.ofText "second".toList) = some (Utf8.encode after) := rfl
  have hBothFile : tree.content? (.ofText "both".toList) =
    some (Utf8.encode before ++ Utf8.encode after) := rfl
  have hNoneFile : tree.content? (.ofText "none".toList) = some [0x61, 0xFF] := rfl
  have hRead := (names_of_file hFirstFile).1 _ _ hFirst rfl
  have hReadOther := (names_of_file hSecondFile).1 _ _ hSecond rfl
  obtain ⟨-, -, hBoth, -⟩ := names_of_file hBothFile
  obtain ⟨-, -, -, hNone⟩ := names_of_file hNoneFile
  refine ⟨hRead, hReadOther, ?_, ?_⟩
  · obtain ⟨names, others, hNames, hNamesOther, hAll⟩ :=
      hBoth _ _ before after hFirstFile (by decide +kernel) hSecondFile rfl
    rw [hRead] at hNames
    rw [hReadOther] at hNamesOther
    cases hNames
    cases hNamesOther
    exact hAll
  · apply hNone
    intro text hText
    have hRead := Utf8.decode_eq_ok_iff.mpr hText
    cases hRead

end

end Command

end PoolLogin
