import Mathlib.Data.List.Nodup
import PoolLogin.Proofs.Scenario.Check

/-! Repairing scenarios. What a check reports is all that has to be expected
otherwise for everything to pass, and none of it can be left out. -/

namespace PoolLogin

/-- A part that another login has takes the place of that part, and of no other. -/
theorem Parts.get_set {α : Type} (p q : Parts α) (field other : Field) :
    (p.set (q.get field) field).get other =
      if other = field then q.get field else p.get other := by
  cases field <;> cases other <;> rfl

namespace Scenario

theorem nodup_wrongFields (scenario : Scenario) : scenario.wrongFields.Nodup :=
  List.Nodup.filter _ (by decide)

theorem failure_injective (scenario : Scenario) : Function.Injective scenario.failure :=
  fun _ _ h => congrArg Failure.field h

/-! ### Adopting -/

/-- A scenario keeps its name, so what is found of it stays the same. -/
theorem found_adoptAll (failures : List Failure) (scenario : Scenario) :
    (scenario.adoptAll failures).found = scenario.found := by
  induction failures generalizing scenario with
  | nil => rfl
  | cons failure failures ih =>
      rw [adoptAll, List.foldl_cons]
      exact ih (scenario.adopt failure)

/-- Parts that are adopted are those that were found, and the others stay as
they were expected. The failures may be those of another scenario. -/
theorem get_expected_adoptAll (origin scenario : Scenario) (fields : List Field) (field : Field) :
    (scenario.adoptAll (fields.map origin.failure)).expected.get field =
      if field ∈ fields then origin.found.get field else scenario.expected.get field := by
  induction fields generalizing scenario with
  | nil => rfl
  | cons first fields ih =>
      have hFirst : (scenario.adopt (origin.failure first)).expected.get field =
          if field = first then origin.found.get first else scenario.expected.get field :=
        Parts.get_set scenario.expected origin.found first field
      rw [List.map_cons, adoptAll, List.foldl_cons, ← adoptAll, ih, hFirst]
      by_cases hEq : field = first
      · simp [hEq]
      · simp [hEq]

/-- A scenario passes once every part that was read otherwise is expected as it was read. -/
theorem passes_adoptAll_iff {scenario : Scenario} {fields : List Field} :
    (scenario.adoptAll (fields.map scenario.failure)).passes = true ↔
      ∀ field ∈ scenario.wrongFields, field ∈ fields := by
  rw [passes_iff, found_adoptAll]
  constructor
  · intro hFound field hField
    by_contra hLeft
    apply mem_wrongFields.mp hField
    have hGet := congrArg (Parts.get · field) hFound
    simpa only [get_expected_adoptAll, if_neg hLeft] using hGet
  · intro hAll
    apply Parts.eq_of_get_eq
    intro field
    rw [get_expected_adoptAll]
    by_cases hField : field ∈ fields
    · rw [if_pos hField]
    · rw [if_neg hField]
      by_contra hWrong
      exact hField (hAll field (mem_wrongFields.mpr hWrong))

theorem passes_repair (scenario : Scenario) : scenario.repair.passes = true :=
  passes_adoptAll_iff.mpr fun _ hField => hField

/-- Every failure is of a part of its own, so no other one makes up for it. -/
theorem not_passes_adoptAll_erase {scenario : Scenario} {failure : Failure}
    (h : failure ∈ scenario.failures) :
    ¬(scenario.adoptAll (scenario.failures.erase failure)).passes = true := by
  obtain ⟨field, hField, rfl⟩ := List.mem_map.mp h
  rw [failures, ← List.map_erase scenario.failure_injective, passes_adoptAll_iff]
  intro hAll
  exact scenario.nodup_wrongFields.not_mem_erase (hAll field hField)

/-! ### Checking all -/

/-- What a check of scenarios tells, and all that it tells: how many there are,
how many are read as expected, and in order every part that is not, with what
was expected of it and what was found. So the check of scenarios that follow
others is the sum of two checks, and the built-in ones only add to the counts.
With the parts that are reported expected as they were found everything
passes, and with one of them left out it does not. -/
theorem check_exact (scenarios : List Scenario) :
    (check scenarios).total = scenarios.length ∧
    (check scenarios).passed = scenarios.countP (fun scenario =>
      decide (Login.parseWide scenario.name = scenario.expected)) ∧
    (check scenarios).failures = scenarios.flatMap (fun scenario =>
      let found := Login.parseWide scenario.name
      (Field.all.filter fun field => found.get field ≠ scenario.expected.get field).map fun field =>
        { name := scenario.name, field, expected := scenario.expected.get field
          found := found.get field }) ∧
    ((check scenarios).ok = true ↔ (check scenarios).passed = (check scenarios).total) ∧
    (∀ others, check (scenarios ++ others) =
      { total := (check scenarios).total + (check others).total
        passed := (check scenarios).passed + (check others).passed
        failures := (check scenarios).failures ++ (check others).failures }) ∧
    check (builtin ++ scenarios) =
      { total := builtin.length + (check scenarios).total
        passed := builtin.length + (check scenarios).passed
        failures := (check scenarios).failures } ∧
    (check (scenarios.map repair)).ok = true ∧
    ∀ before scenario after, scenarios = before ++ scenario :: after →
      ∀ failure ∈ scenario.failures, (check (before.map repair ++
        scenario.adoptAll (scenario.failures.erase failure) :: after.map repair)).ok = false := by
  refine ⟨by rw [check_eq], ?_, ?_, ok_check_iff_passed, check_append scenarios, ?_, ?_, ?_⟩
  · rw [check_eq]
    apply List.countP_congr
    intro scenario _
    rw [passes_iff, decide_eq_true_iff]
    rfl
  · rw [check_eq]
    apply List.flatMap_congr
    intro scenario _
    have hFields : scenario.wrongFields = Field.all.filter fun field =>
        (Login.parseWide scenario.name).get field ≠ scenario.expected.get field := by
      apply List.filter_congr
      intro field _
      rw [Bool.eq_iff_iff, Bool.not_eq_true', ← Bool.not_eq_true, Parts.agree_iff,
        decide_eq_true_iff]
      rfl
    rw [failures, hFields]
    rfl
  · rw [check_append, check_of_passes passes_of_mem_builtin, List.nil_append]
  · rw [ok_check_iff, List.forall_mem_map]
    exact fun scenario _ => scenario.passes_repair
  · intro before scenario after _ failure hFailure
    rw [← Bool.not_eq_true, ok_check_iff]
    intro hAll
    exact not_passes_adoptAll_erase hFailure (hAll _ (by simp))

/-- A scenario with three wrong parts, of which one is left out. -/
theorem check_exact_one_left_out :
    let wrong := ofLiterals "user1.worker@rig2" "user1" none none (some "worker@rig2")
    let failure : Failure :=
      { name := .ofText "user1.worker@rig2".toList, field := .domain, expected := none
        found := some (.ofText "rig2".toList) }
    failure ∈ wrong.failures ∧
    (check [ofLiterals "a" "a",
      wrong.adoptAll (wrong.failures.erase failure)]).ok = false := by
  intro wrong failure
  have hFailure : failure ∈ wrong.failures := by decide +kernel
  exact ⟨hFailure, (check_exact [ofLiterals "a" "a", wrong]).2.2.2.2.2.2.2 [ofLiterals "a" "a"]
    wrong [] rfl failure hFailure⟩

end Scenario

end PoolLogin
