import Mathlib.Data.Nat.Digits.Defs
import PoolLogin.Proofs.Command.Frame
import PoolLogin.Proofs.Json.Bounds
import PoolLogin.Proofs.Json.Content
import PoolLogin.Proofs.Json.Rows
import PoolLogin.Scenario.Reader

/-! Summaries in files. A summary that has been written is read as itself, with
its failures in order, absent parts as null and texts as they were. -/

namespace PoolLogin.Command

open FileTree PoolLogin.Action
open Scenario (Summary)

/-- A failure as it stands in a summary. -/
def failureJson (failure : Scenario.Failure) : Json :=
  .ofMembers [(Login.nameKey, .string failure.name), ("field".toList, .ofText failure.field.key),
    ("expected".toList, .ofOption .string failure.expected),
    ("found".toList, .ofOption .string failure.found)]

theorem summaryJson_eq (summary : Summary) :
    summaryJson summary = .ofMembers [("total".toList, .int summary.total),
      ("passed".toList, .int summary.passed),
      ("failures".toList, .arr (summary.failures.map failureJson))] := rfl

/-! ### Reading summaries -/

theorem optionalText?_ofOption (text : Option WideText) :
    (Json.ofOption .string text).optionalText? = some text := by
  cases text <;> rfl

theorem ofKey?_key (field : Field) : Field.ofKey? (.ofText field.key) = some field := by
  cases field <;> rfl

theorem ofJson?_failureJson (failure : Scenario.Failure) :
    Scenario.Failure.ofJson? (failureJson failure) = some failure := by
  have hValues : (failureJson failure).values? [Login.nameKey, "field".toList, "expected".toList,
      "found".toList] = some [.string failure.name, .ofText failure.field.key,
        .ofOption .string failure.expected, .ofOption .string failure.found] := rfl
  simp only [Scenario.Failure.ofJson?, hValues, optionalText?_ofOption, Json.ofText, Json.wideText?,
    ofKey?_key, Option.bind_eq_bind, Option.bind_some, pure]

theorem ofJson?_summaryJson (summary : Summary) :
    Summary.ofJson? (summaryJson summary) = some summary := by
  have hValues : (summaryJson summary).values? ["total".toList, "passed".toList,
      "failures".toList] = some [.int summary.total, .int summary.passed,
        .arr (summary.failures.map failureJson)] := rfl
  have hFailures : (summary.failures.map failureJson).mapM Scenario.Failure.ofJson? =
      some summary.failures := mapM_map_of_forall fun failure _ => ofJson?_failureJson failure
  simp only [Summary.ofJson?, hValues, Json.natural?, Json.items?, hFailures, Int.toNat?,
    Option.bind_eq_bind, Option.bind_some, pure]

/-! ### Summaries that can be read -/

theorem readable_ofOption {text : Option WideText} {depth : Nat}
    (h : (Json.ofOption .string text).isScalar = true) :
    Json.Readable depth (.ofOption .string text) := by
  cases text with
  | none => trivial
  | some text => exact h

theorem readable_failureJson {failure : Scenario.Failure} (h : (failureJson failure).isScalar = true)
    {depth : Nat} (hDepth : depth < Json.maxDepth) : Json.Readable depth (failureJson failure) := by
  rw [failureJson, Json.isScalar_ofMembers, List.all_eq_true] at h
  simp only [List.forall_mem_cons, List.not_mem_nil, false_implies, implies_true, and_true] at h
  obtain ⟨hName, hField, hExpected, hFound⟩ := h
  have hKeys : [Login.nameKey, "field".toList, "expected".toList, "found".toList].Nodup := by decide
  refine Json.readable_ofMembers hDepth hKeys ?_
  simp only [List.forall_mem_cons, List.not_mem_nil, false_implies, implies_true, and_true]
  exact ⟨hName, hField, readable_ofOption hExpected, readable_ofOption hFound⟩

theorem readable_summaryJson {summary : Summary} (h : (summaryJson summary).isScalar = true)
    (hTotal : (Numeral.natural summary.total).length ≤ Numeral.maxDigits)
    (hPassed : (Numeral.natural summary.passed).length ≤ Numeral.maxDigits) :
    Json.Readable 0 (summaryJson summary) := by
  rw [summaryJson_eq, Json.isScalar_ofMembers, List.all_eq_true] at h
  simp only [List.forall_mem_cons, List.not_mem_nil, false_implies, implies_true, and_true] at h
  obtain ⟨_, _, hFailures⟩ := h
  rw [Json.isScalar, Json.areScalar_eq, List.all_eq_true, List.forall_mem_map] at hFailures
  have hKeys : ["total".toList, "passed".toList, "failures".toList].Nodup := by decide
  rw [summaryJson_eq]
  refine Json.readable_ofMembers (by decide) hKeys ?_
  simp only [List.forall_mem_cons, List.not_mem_nil, false_implies, implies_true, and_true]
  refine ⟨hTotal, hPassed, by decide, ?_⟩
  rw [Json.allReadable_iff, List.forall_mem_map]
  exact fun failure hFailure => readable_failureJson (hFailures failure hFailure) (by decide)

/-! ### Counts -/

theorem isPlain_passedLine (summary : Scenario.Summary) :
    ∀ c ∈ passedLine summary, Text.IsPlain c := by
  intro c hc
  rw [passedLine, List.mem_append, List.mem_append, List.mem_cons] at hc
  rcases hc with (hPassed | rfl | hTotal) | hWords
  · exact Text.isPlain_natural _ c hPassed
  · decide
  · exact Text.isPlain_natural _ c hTotal
  · exact Text.forall_isPlain rfl c hWords

/-- A smaller count has no more digits. -/
theorem length_natural_mono {m n : Nat} (h : m ≤ n) :
    (Numeral.natural m).length ≤ (Numeral.natural n).length := by
  have hDigits : ∀ c ∈ Numeral.natural n, Json.isDigit c :=
    fun c hc => Json.isDigit_of_isDigit (Numeral.isDigit_of_mem_natural c hc)
  have hValue : Json.readExponent.digitsValue (Numeral.natural n) = n := Numeral.value_natural n
  have hBelow : n < 10 ^ (Numeral.natural n).length := by
    conv_lhs => rw [← hValue]
    exact Json.digitsValue_lt hDigits (Nat.le_refl _)
  obtain ⟨c, rest, hEq, _⟩ := Numeral.natural_eq_cons n
  have hSome : 0 < (Numeral.natural n).length := by
    rw [hEq]
    exact Nat.succ_pos rest.length
  exact Nat.toDigits_length 10 m _ hSome (Nat.lt_of_le_of_lt h hBelow)

/-! ### Files -/

/-- The file of a summary tells that summary, if its total is not too long to be read. -/
theorem holds_summaryContent {summary : Summary} (h : (summaryJson summary).isScalar = true)
    (hPassed : summary.passed ≤ summary.total)
    (hTotal : (Numeral.natural summary.total).length ≤ Numeral.maxDigits) :
    Json.Holds (summaryContent summary) (summaryJson summary) := by
  apply Json.holds_write_indented
  exact readable_summaryJson h hTotal (Nat.le_trans (length_natural_mono hPassed) hTotal)

/-- A summary that has been written holds no surrogates and is in its file. -/
theorem content?_of_writeSummary {path : Path} {summary : Summary} {s t : Session}
    (h : (writeSummary path summary).run s = (.ok (), t)) :
    (summaryJson summary).isScalar = true ∧ t.printed = s.printed ∧
      t.tree.content? path = some (summaryContent summary) := by
  rw [run_writeSummary] at h
  split_ifs at h with hScalar
  · obtain ⟨tree, hRun, rfl⟩ := Run.exists_of_act h
    exact ⟨hScalar, rfl, content?_of_revise hRun⟩
  · obtain ⟨_, _, _, hThrown⟩ := exists_of_run_bind h
    cases hThrown

/-- What is printed after the count: that a summary has been written, if it has. -/
def filedText (output : Option Path) : Except Text.CutFault Text :=
  match output with
  | some path => Console.printWrapped (filedLine path)
  | none => .ok []

/-- A run that has filed its summary exits with zero or one, whether there is a file or not. -/
theorem file_ok {summary : Summary} {output : Option Path} {s t : Session} {code : Nat}
    (h : (file summary output).run s = (.ok code, t)) :
    code = (if summary.ok then 0 else 1) ∧
    (∃ filed, filedText output = .ok filed ∧ t.printed = s.printed ++ filed) ∧
    ∀ path, output = some path → (summaryJson summary).isScalar = true ∧
      t.tree.content? path = some (summaryContent summary) := by
  cases output with
  | none =>
      cases h
      exact ⟨rfl, ⟨[], rfl, (List.append_nil _).symm⟩, by simp⟩
  | some path =>
      obtain ⟨_, middle, hSummary, h⟩ := exists_of_run_bind h
      obtain ⟨_, _, hLine, h⟩ := exists_of_run_bind h
      obtain ⟨hScalar, hPrinted, hContent⟩ := content?_of_writeSummary hSummary
      obtain ⟨filed, hFiled, rfl⟩ := Run.exists_of_printLine hLine
      cases h
      refine ⟨rfl, ⟨filed, hFiled, by rw [← hPrinted]; rfl⟩, ?_⟩
      rintro other ⟨⟩
      exact ⟨hScalar, hContent⟩

end PoolLogin.Command
