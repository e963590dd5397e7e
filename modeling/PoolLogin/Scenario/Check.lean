import PoolLogin.Scenario.Basic

/-!
Checking scenarios: every part that differs from what is expected is a failure. A scenario is
repaired by expecting what is found.
-/

namespace PoolLogin.Scenario

/-- A part that was read otherwise than expected. -/
structure Failure where
  name : WideText
  field : Field
  expected : Option WideText
  found : Option WideText
  deriving DecidableEq, Repr

/-- What a check found. -/
structure Summary where
  total : Nat := 0
  passed : Nat := 0
  failures : List Failure := []
  deriving DecidableEq, Repr

/-- What the worker name of a scenario is read as. -/
def found (scenario : Scenario) : Parts WideText := Login.parseWide scenario.name

/-- The parts that are read otherwise than expected, in reporting order. -/
def wrongFields (scenario : Scenario) : List Field :=
  scenario.found.mismatches scenario.expected

/-- What is reported of a part of a scenario. -/
def failure (scenario : Scenario) (field : Field) : Failure :=
  { name := scenario.name, field, expected := scenario.expected.get field
    found := scenario.found.get field }

/-- The failures of one scenario, in reporting order. -/
def failures (scenario : Scenario) : List Failure := scenario.wrongFields.map scenario.failure

def passes (scenario : Scenario) : Bool := scenario.failures.isEmpty

namespace Summary

def ok (summary : Summary) : Bool := summary.failures.isEmpty

/-- What was found with one more scenario. A scenario is counted once, however many of its parts
have failed. -/
def add (summary : Summary) (scenario : Scenario) : Summary :=
  let summary := { summary with total := summary.total + 1 }
  match scenario.failures with
  | [] => { summary with passed := summary.passed + 1 }
  | failures => { summary with failures := summary.failures ++ failures }

end Summary

/-- Check one scenario after the other. -/
def check (scenarios : List Scenario) : Summary := scenarios.foldl Summary.add {}

/-! ### Repairing -/

/-- Expect what was found of the part that failed. -/
def adopt (scenario : Scenario) (failure : Failure) : Scenario :=
  { scenario with expected := scenario.expected.set failure.found failure.field }

/-- Expect what was found of all parts that failed. -/
def adoptAll (failures : List Failure) (scenario : Scenario) : Scenario :=
  failures.foldl adopt scenario

/-- A scenario that expects what is found of every part that is reported. -/
def repair (scenario : Scenario) : Scenario := scenario.adoptAll scenario.failures

end PoolLogin.Scenario
