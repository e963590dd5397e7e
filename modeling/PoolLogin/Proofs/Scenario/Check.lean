import PoolLogin.Scenario.Builtin
import PoolLogin.Scenario.Check

/-! Checking scenarios. One more scenario adds one to the total, one to those
that have passed or its failures to the others; so a check is the sum of what
is found of each scenario, and nothing hangs on how a list of them is cut. -/

namespace PoolLogin

theorem Field.mem_all (field : Field) : field ∈ Field.all := by
  cases field <;> decide

namespace Parts

variable {α : Type}

/-- The parts are all that a login consists of. -/
theorem eq_of_get_eq {p q : Parts α} (h : ∀ field, p.get field = q.get field) : p = q := by
  have hPrimary := h .primary
  have hSecondary := h .secondary
  have hDomain := h .domain
  have hSuffix := h .suffix
  cases p
  cases q
  simp only [get, Option.some.injEq] at hPrimary hSecondary hDomain hSuffix
  rw [hPrimary, hSecondary, hDomain, hSuffix]

variable [BEq α] [LawfulBEq α]

theorem agree_iff {a b : Option α} : agree a b = true ↔ a = b := by
  cases a <;> cases b <;> simp [agree]

/-- An absent part and an empty one do not agree, so all that is not the same is found. -/
theorem mem_mismatches {found expected : Parts α} {field : Field} :
    field ∈ found.mismatches expected ↔ found.get field ≠ expected.get field := by
  rw [mismatches, List.mem_filter, Bool.not_eq_true', ← Bool.not_eq_true, agree_iff]
  exact and_iff_right (Field.mem_all field)

end Parts

namespace Scenario

/-! ### One scenario -/

theorem mem_wrongFields {scenario : Scenario} {field : Field} :
    field ∈ scenario.wrongFields ↔ scenario.found.get field ≠ scenario.expected.get field :=
  Parts.mem_mismatches

theorem passes_iff {scenario : Scenario} :
    scenario.passes = true ↔ scenario.found = scenario.expected := by
  rw [passes, failures, List.isEmpty_iff, List.map_eq_nil_iff, List.eq_nil_iff_forall_not_mem]
  simp only [mem_wrongFields, ne_eq, Classical.not_not]
  exact ⟨Parts.eq_of_get_eq, fun h field => by rw [h]⟩

/-- A scenario adds one to the count of those that have passed exactly if it has no failures. -/
theorem add_eq (summary : Summary) (scenario : Scenario) :
    summary.add scenario =
      { total := summary.total + 1
        passed := summary.passed + if scenario.passes then 1 else 0
        failures := summary.failures ++ scenario.failures } := by
  rw [Summary.add, passes]
  cases scenario.failures with
  | nil => simp
  | cons failure failures => rfl

/-! ### Many scenarios -/

/-- What has been found before stays, and every scenario adds its own. -/
theorem foldl_add (summary : Summary) (scenarios : List Scenario) :
    scenarios.foldl Summary.add summary =
      { total := summary.total + scenarios.length
        passed := summary.passed + scenarios.countP passes
        failures := summary.failures ++ scenarios.flatMap failures } := by
  induction scenarios generalizing summary with
  | nil => simp
  | cons scenario scenarios ih =>
      rw [List.foldl_cons, ih, add_eq, List.length_cons, List.countP_cons, List.flatMap_cons,
        List.append_assoc, Nat.add_assoc, Nat.add_assoc, Nat.add_comm 1, Nat.add_comm (ite _ _ _)]

theorem check_eq (scenarios : List Scenario) :
    check scenarios =
      { total := scenarios.length
        passed := scenarios.countP passes
        failures := scenarios.flatMap failures } := by
  rw [check, foldl_add, Nat.zero_add, Nat.zero_add, List.nil_append]

theorem check_append (first second : List Scenario) :
    check (first ++ second) =
      { total := (check first).total + (check second).total
        passed := (check first).passed + (check second).passed
        failures := (check first).failures ++ (check second).failures } := by
  simp only [check_eq, List.length_append, List.countP_append, List.flatMap_append]

theorem passed_le_total (scenarios : List Scenario) :
    (check scenarios).passed ≤ (check scenarios).total := by
  rw [check_eq]
  exact List.countP_le_length

theorem ok_check_iff {scenarios : List Scenario} :
    (check scenarios).ok = true ↔ ∀ scenario ∈ scenarios, scenario.passes = true := by
  rw [check_eq, Summary.ok, List.isEmpty_iff, List.flatMap_eq_nil_iff]
  simp only [passes, List.isEmpty_iff]

/-- Nothing has failed exactly if every scenario has been counted as passed. -/
theorem ok_check_iff_passed {scenarios : List Scenario} :
    (check scenarios).ok = true ↔ (check scenarios).passed = (check scenarios).total := by
  rw [ok_check_iff, check_eq, List.countP_eq_length]

/-- If all scenarios pass, nothing but their number is reported. -/
theorem check_of_passes {scenarios : List Scenario} (h : ∀ scenario ∈ scenarios, scenario.passes) :
    check scenarios =
      { total := scenarios.length, passed := scenarios.length, failures := [] } := by
  have hFailures : scenarios.flatMap failures = [] := by
    rw [List.flatMap_eq_nil_iff]
    intro scenario hScenario
    exact List.isEmpty_iff.mp (h scenario hScenario)
  rw [check_eq, hFailures, List.countP_eq_length.mpr h]

theorem passes_of_mem_builtin : ∀ scenario ∈ builtin, scenario.passes := by
  decide +kernel

end Scenario

end PoolLogin
