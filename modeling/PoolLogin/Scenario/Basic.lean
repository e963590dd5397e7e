import PoolLogin.Datum.Notation
import PoolLogin.Login.Report

/-!
Scenarios: worker names with the parts that are expected of them.
-/

namespace PoolLogin

/-- A worker name and what it should be read as. Case files can spell surrogates, so both may hold
them. -/
structure Scenario where
  name : WideText
  expected : Parts WideText
  deriving DecidableEq, Repr

namespace Scenario

/-- The scenario of a worker name and parts without surrogates. -/
def ofTexts (name : Text) (expected : Login) : Scenario :=
  { name := .ofText name, expected := expected.map .ofText }

/-- Why a value describes no scenario. -/
inductive Flaw where
  /-- It has no worker name. -/
  | noName (entry : Datum)
  /-- It has a worker name, but no payout id. -/
  | noPrimary (name : WideText)
  /-- It cannot be written. -/
  | unwritable (reason : Datum.Unwritable)
  deriving Repr

def plainText (datum : Datum) : Except Flaw WideText :=
  match datum.unwritable? with
  | some reason => .error (.unwritable reason)
  | none => .ok datum.plain

section

variable {ν : Type} (view : ν → Datum)

/-- The plain text of a key, unless it has no value. An absent key and null are the same. -/
def fieldText? (entries : Entries Datum ν) (field : Field) : Except Flaw (Option WideText) :=
  match (Entries.get? (.string (.ofText field.key)) entries).map view with
  | none => .ok none
  | some .null => .ok none
  | some datum => (plainText datum).map some

/-- The scenario that a map describes. The worker name may be any value, and a part is absent if
its key is missing or null. `view` shows what a value of the map looks like from itself, and `whole`
is the map. -/
def ofEntries (whole : ν) (entries : Entries Datum ν) : Except Flaw Scenario := do
  match Entries.get? (.string (.ofText Login.nameKey)) entries with
  | none =>
    let whole := view whole
    throw ((whole.unwritable?.map Flaw.unwritable).getD (.noName whole))
  | some value =>
    let name ← plainText (view value)
    let primary ← fieldText? view entries .primary
    let secondary ← fieldText? view entries .secondary
    let domain ← fieldText? view entries .domain
    let suffix ← fieldText? view entries .suffix
    match primary with
    | none => throw (.noPrimary name)
    | some primary => return { name, expected := { primary, secondary, domain, suffix } }

end

def Flaw.message : Flaw → Text
  | noName entry => "Scenario is missing 'workername': ".toList ++ entry.display
  | noPrimary name => "Scenario ".toList ++ Text.quotedWide name ++ " is missing 'primary_id'".toList
  | unwritable reason => reason.message

end Scenario

end PoolLogin
