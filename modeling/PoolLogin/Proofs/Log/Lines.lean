import Mathlib.Data.List.Basic
import PoolLogin.Proofs.Json.Characters
import PoolLogin.Proofs.Json.RoundTrip
import PoolLogin.Proofs.Log
import PoolLogin.Proofs.Text.Lines
import PoolLogin.Proofs.Text.Utf8

/-! JSON values that are appended to a file, one on a line. A line is
printable ASCII, so none is broken, and it is read as the value that it was
written for. -/

namespace PoolLogin.Log

open FileTree PoolLogin.Action
open Text (IsPlain)

/-- The byte that ends a line. -/
def newline : UInt8 := 10

/-- The lines of a content, without the bytes that end them. What follows the last of these
bytes is no line. -/
def lines (content : Bytes) : List Bytes := (Text.splitAt (· == newline) content).dropLast

/-- A content in which every line is ended. -/
def Ended (content : Bytes) : Prop := content = [] ∨ content.getLast? = some newline

/-- What follows a content in which every line is ended brings lines of its own. -/
theorem lines_append {content : Bytes} (h : Ended content) (more : Bytes) :
    lines (content ++ more) = lines content ++ lines more := by
  rcases h with rfl | hLast
  · rfl
  · obtain ⟨before, rfl⟩ := List.getLast?_eq_some_iff.mp hLast
    have hSplit : ∀ rest, Text.splitAt (· == newline) (before ++ [newline] ++ rest) =
        Text.splitAt (· == newline) before ++ Text.splitAt (· == newline) rest := by
      intro rest
      rw [List.append_assoc]
      exact Text.splitAt_append_cons before rfl rest
    have hLines : lines (before ++ [newline]) = Text.splitAt (· == newline) before := by
      have hEmpty := hSplit []
      rw [List.append_nil] at hEmpty
      rw [lines, hEmpty, Text.splitAt, List.dropLast_concat]
    rw [hLines, lines, hSplit, List.dropLast_append_of_ne_nil (Text.splitAt_ne_nil _ more), lines]

/-- A printable character of ASCII is a byte that ends no line. -/
theorem encodeChar_of_plain {c : Char} (h : IsPlain c) :
    ∀ b ∈ Utf8.encodeChar c, (b == newline) = false := by
  obtain ⟨hLow, hHigh⟩ := h
  intro b hb
  rw [Utf8.encodeChar, if_pos (by omega), List.mem_singleton] at hb
  rw [beq_eq_false_iff_ne]
  intro hNewline
  have hNat := congrArg UInt8.toNat (hb.symm.trans hNewline)
  rw [Utf8.byte_toNat (by omega), newline] at hNat
  simp at hNat
  omega

/-- Printable texts that are ended one by one are the lines of their bytes. -/
theorem lines_encode {texts : List Text} (h : ∀ text ∈ texts, ∀ c ∈ text, IsPlain c) :
    lines (Utf8.encode (texts.flatMap (· ++ ['\n']))) = texts.map Utf8.encode := by
  have hBytes : Utf8.encode (texts.flatMap (· ++ ['\n'])) =
      (texts.map Utf8.encode).flatMap (· ++ [newline]) := by
    rw [Utf8.encode, List.flatMap_assoc, List.flatMap_map]
    apply List.flatMap_congr
    intro text _
    rw [List.flatMap_append]
    rfl
  have hEnds : ∀ line ∈ texts.map Utf8.encode, ∀ b ∈ line, (b == newline) = false := by
    intro line hLine b hb
    obtain ⟨text, hText, rfl⟩ := List.mem_map.mp hLine
    obtain ⟨c, hc, hb⟩ := List.mem_flatMap.mp hb
    exact encodeChar_of_plain (h text hText c hc) b hb
  have hSplit : Text.splitAt (· == newline) ((texts.map Utf8.encode).flatMap (· ++ [newline])) =
      texts.map Utf8.encode ++ [[]] := Text.splitAt_flatMap rfl hEnds
  rw [lines, hBytes, hSplit, List.dropLast_concat]

/-! ### Values -/

/-- A JSON value as an addition to a file of values. -/
def jsonAddition (payload : Json) : Addition := { lead := [], text := jsonLine payload }

theorem run_forM_appendJson (path : Path) (payloads : List Json) (tree : FileTree) :
    (payloads.forM (appendJson path)).run tree =
      (addAll path (payloads.map jsonAddition)).run tree :=
  run_forM_congr (k := jsonAddition) (run_appendJson path) payloads tree

/-- Values are added as their lines, whether there is a file already or not. -/
theorem grown_jsonAddition (before : Option Bytes) (payload : Json) (payloads : List Json) :
    grown before ((payload :: payloads).map jsonAddition) = some (before.getD [] ++
      Utf8.encode (((payload :: payloads).map (Json.write .ascii)).flatMap (· ++ ['\n']))) := by
  have hText : ((payload :: payloads).map jsonAddition).flatMap Addition.text =
      ((payload :: payloads).map (Json.write .ascii)).flatMap (· ++ ['\n']) := by
    rw [List.flatMap_map, List.flatMap_map]
    rfl
  cases before with
  | none =>
      rw [List.map_cons, grown_none, ← List.map_cons, hText]
      rfl
  | some content =>
      rw [grown_some, hText]
      rfl

/-- JSON values can be appended one by one just where a file can be written. If
the file, or none, stays the same when directories are made, then what was
there stays in front of one line for each of the values in order. The lines
are printable ASCII and are read as these values. If every line was ended
before, the lines of the file are the old ones and then these. -/
theorem appended_lines_read_back {tree : FileTree} {path : Path} (hSettled : tree.Settled path)
    (hEnded : Ended ((tree.content? path).getD [])) {payloads : List Json}
    (hPayloads : ∀ payload ∈ payloads, Json.Readable 0 payload) :
    (tree.Writable path → ∃ after, (payloads.forM (appendJson path)).run tree = (.ok (), after)) ∧
    (payloads ≠ [] →
      (∃ after, (payloads.forM (appendJson path)).run tree = (.ok (), after)) →
      tree.Writable path) ∧
    ∀ after, (payloads.forM (appendJson path)).run tree = (.ok (), after) →
      ∃ texts : List Text,
        after.content? path = (if payloads = [] then tree.content? path
          else some ((tree.content? path).getD [] ++ Utf8.encode (texts.flatMap (· ++ ['\n'])))) ∧
        lines ((after.content? path).getD []) =
          lines ((tree.content? path).getD []) ++ texts.map Utf8.encode ∧
        (∀ text ∈ texts, ∀ c ∈ text, IsPlain c) ∧
        texts.mapM Json.read = .ok payloads := by
  rw [run_forM_appendJson]
  refine ⟨fun hWritable => run_addAll_of_writable hWritable _,
    fun hSome => (run_addAll_iff (by simpa using hSome)).mp, fun after hRun => ?_⟩
  have hPlain : ∀ text ∈ payloads.map (Json.write .ascii), ∀ c ∈ text, IsPlain c := by
    intro text hText
    obtain ⟨payload, hPayload, rfl⟩ := List.mem_map.mp hText
    exact Json.forall_writeAt Json.writes_ascii payload 0 (hPayloads payload hPayload)
  have hContent := content?_of_addAll hSettled hRun
  refine ⟨payloads.map (Json.write .ascii), ?_, ?_, hPlain,
    Json.mapM_read_write Json.legible_ascii hPayloads⟩
  · cases payloads with
    | nil => exact hContent
    | cons payload payloads =>
        rw [hContent, grown_jsonAddition, if_neg (List.cons_ne_nil payload payloads)]
  · cases payloads with
    | nil =>
        rw [hContent]
        exact (List.append_nil _).symm
    | cons payload payloads =>
        rw [hContent, grown_jsonAddition, Option.getD_some, lines_append hEnded,
          lines_encode hPlain]

/-- Two values behind a line that is no JSON. -/
theorem appended_lines_behind_another :
    let path := Path.ofText "log".toList
    let tree : FileTree := { entries := [(path, .file (Utf8.encode "old\n".toList))] }
    let payloads : List Json :=
      [.obj [(.ofText "é😀".toList, .arr [.null, .bool true, .int (-12)]),
        (.ofText "a\"\n".toList, .obj [])], .ofText "\\".toList]
    ∃ after, (payloads.forM (appendJson path)).run tree = (.ok (), after) ∧
      ∃ texts : List Text,
        lines ((after.content? path).getD []) = Utf8.encode "old".toList :: texts.map Utf8.encode ∧
        texts.mapM Json.read = .ok payloads := by
  intro path tree payloads
  have hPlace : tree.place path = .ok path := eq_ok_of_toOption (by decide +kernel)
  have hPayloads : ∀ payload ∈ payloads, Json.Readable 0 payload := by decide +kernel
  obtain ⟨hRuns, -, hReads⟩ := appended_lines_read_back (settled_of_place hPlace)
    (show Ended _ from Or.inr (by decide +kernel)) hPayloads
  obtain ⟨after, hRun⟩ := hRuns (writable_of_place hPlace (by decide +kernel))
  obtain ⟨texts, _, hLines, _, hRead⟩ := hReads after hRun
  exact ⟨after, hRun, texts, hLines.trans (by rfl), hRead⟩

/-- A path at which nothing stands, until the directory is made that it leaves
again. Then it leads to an old file, and its last line goes on with the value. -/
theorem line_behind_old_content :
    let path := Path.ofText "missing/../log".toList
    let tree : FileTree :=
      { entries := [(Path.ofText "log".toList, .file (Utf8.encode "old".toList))] }
    let outcome := ([Json.obj []].forM (appendJson path)).run tree
    tree.node? path = none ∧ outcome.1 = .ok () ∧
      outcome.2.content? path = some (Utf8.encode "old\x7b\x7d\n".toList) ∧
      outcome.2.content? path ≠ some (Utf8.encode (jsonLine (.obj []))) := by
  intro path tree outcome
  exact ⟨by decide +kernel, eq_ok_of_toOption (by decide +kernel), by decide +kernel,
    by decide +kernel⟩

end PoolLogin.Log
