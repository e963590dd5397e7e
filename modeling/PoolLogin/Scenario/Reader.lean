import PoolLogin.Entries
import PoolLogin.Json.Value
import PoolLogin.Scenario.Check

/-!
Reading summaries that are JSON. A summary and its failures have their own keys and no others, and
only a part that is absent is null.
-/

namespace PoolLogin

namespace Json

/-- The values of keys, in their order, if these are all the keys of an object. -/
def values? (keys : List Text) : Json → Option (List Json)
  | .obj members =>
    if members.length = keys.length then
      keys.mapM fun key => Entries.get? (.ofText key) members
    else none
  | _ => none

def natural? : Json → Option Nat
  | .int n => n.toNat?
  | _ => none

def wideText? : Json → Option WideText
  | .string s => some s
  | _ => none

/-- A text, or null in place of one. -/
def optionalText? : Json → Option (Option WideText)
  | .null => some none
  | value => value.wideText?.map some

def items? : Json → Option (List Json)
  | .arr items => some items
  | _ => none

end Json

/-- The part that goes by a key. -/
def Field.ofKey? (key : WideText) : Option Field :=
  Field.all.find? fun field => WideText.ofText field.key == key

namespace Scenario

def Failure.ofJson? (value : Json) : Option Failure := do
  match ← value.values? [Login.nameKey, "field".toList, "expected".toList, "found".toList] with
  | [name, field, expected, found] =>
    return {
      name := ← name.wideText?
      field := ← Field.ofKey? (← field.wideText?)
      expected := ← expected.optionalText?
      found := ← found.optionalText? }
  | _ => none

def Summary.ofJson? (value : Json) : Option Summary := do
  match ← value.values? ["total".toList, "passed".toList, "failures".toList] with
  | [total, passed, failures] =>
    return {
      total := ← total.natural?
      passed := ← passed.natural?
      failures := ← (← failures.items?).mapM Failure.ofJson? }
  | _ => none

end Scenario

end PoolLogin
