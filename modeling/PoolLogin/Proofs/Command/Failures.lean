import PoolLogin.Command.Run
import PoolLogin.Proofs.Console.Line
import PoolLogin.Proofs.Scenario.Check
import PoolLogin.Proofs.Text.Quoted

/-! The table of failures. What was expected and what was found stand in it
between quotes, and whoever reads the table sees that they differ. -/

namespace PoolLogin.Command

open Text (IsVisible quotedOption)

theorem expected_ne_found {scenarios : List Scenario} {failure : Scenario.Failure}
    (h : failure ∈ (Scenario.check scenarios).failures) : failure.expected ≠ failure.found := by
  rw [Scenario.check_eq] at h
  obtain ⟨scenario, _, hFailure⟩ := List.mem_flatMap.mp h
  obtain ⟨field, hField, rfl⟩ := List.mem_map.mp hFailure
  exact (Scenario.mem_wrongFields.mp hField).symm

theorem isShown_of_isVisible {c : Char} (h : IsVisible c) : Console.IsShown c :=
  Console.isShown_of_le h.noControl.1

/-- A visible text is one line, of which the console drops and changes nothing. -/
theorem shown_of_isVisible {text : Text} (h : ∀ c ∈ text, IsVisible c) :
    (Text.splitLines (Console.dropControls text)).map Console.expandTabs = [text] := by
  have hShown : ∀ c ∈ text, Console.IsShown c := fun c hc => isShown_of_isVisible (h c hc)
  have hLine : '\n' ∉ text := fun hMem => by cases (h '\n' hMem).noBreak
  rw [Console.dropControls_of_shown hShown, Text.splitLines_of_notMem hLine, List.map_singleton,
    Console.expandTabs_of_shown hShown]

theorem rows_failureTable (failures : List Scenario.Failure) (names : List Text) :
    (failureTable failures names).rows = (failures.zip names).map fun entry =>
      [entry.2, entry.1.field.key, quotedOption entry.1.expected, quotedOption entry.1.found] :=
  rfl

/-- Every failure has a row of its own, behind a name. -/
theorem map_tail_failureTable (failures : List Scenario.Failure) {names : List Text}
    (h : names.length = failures.length) :
    (failureTable failures names).rows.map List.tail = failures.map fun failure =>
      [failure.field.key, quotedOption failure.expected, quotedOption failure.found] := by
  have hFailures : (failures.zip names).map Prod.fst = failures :=
    List.map_fst_zip (Nat.le_of_eq h.symm)
  rw [rows_failureTable, List.map_map]
  conv => rhs; rw [← hFailures, List.map_map]
  rfl

/-- Optional texts that differ are quoted differently. So the table has a row
for every failure of a check, in which what was expected and what was found
differ. Both are made of visible characters, and stay one line and as they are
when control characters are dropped and tabs expanded. -/
theorem failures_differ_visibly :
    Function.Injective quotedOption ∧
    (∀ (failures : List Scenario.Failure) (names : List Text), names.length = failures.length →
      (failureTable failures names).rows.map List.tail = failures.map fun failure =>
        [failure.field.key, quotedOption failure.expected, quotedOption failure.found]) ∧
    ∀ (scenarios : List Scenario), ∀ failure ∈ (Scenario.check scenarios).failures,
      quotedOption failure.expected ≠ quotedOption failure.found ∧
      ∀ cell ∈ [quotedOption failure.expected, quotedOption failure.found],
        (∀ c ∈ cell, IsVisible c) ∧
        (Text.splitLines (Console.dropControls cell)).map Console.expandTabs = [cell] := by
  refine ⟨Text.quotedOption_injective, fun failures names => map_tail_failureTable failures, ?_⟩
  intro scenarios failure hFailure
  refine ⟨fun hSame => expected_ne_found hFailure (Text.quotedOption_injective hSame), ?_⟩
  intro cell hCell
  have hVisible : ∀ c ∈ cell, IsVisible c := by
    rcases List.mem_pair.mp hCell with rfl | rfl
    · exact Text.isVisible_of_mem_quotedOption failure.expected
    · exact Text.isVisible_of_mem_quotedOption failure.found
  exact ⟨hVisible, shown_of_isVisible hVisible⟩

/-- Quotes of both kinds, and the word for an absent text in front of a line separator. -/
theorem failures_differ_visibly_of_word :
    let scenario : Scenario :=
      { name := .ofText "'.None\u2028".toList, expected := { primary := .ofText ['"'] } }
    let failures := (Scenario.check [scenario]).failures
    ((failureTable failures [[], []]).rows.map List.tail =
      [["primary_id".toList, "'\"'".toList, "\"'\"".toList],
        ["suffix".toList, "None".toList, "'None\\u2028'".toList]]) ∧
    ∀ failure ∈ failures, quotedOption failure.expected ≠ quotedOption failure.found := by
  intro scenario failures
  obtain ⟨-, hRows, hSeen⟩ := failures_differ_visibly
  refine ⟨(hRows failures [[], []] (by decide +kernel)).trans (by decide +kernel), ?_⟩
  exact fun failure hFailure => (hSeen [scenario] failure hFailure).1

end PoolLogin.Command
