import PoolLogin.Login.Report
import PoolLogin.Proofs.Login.Wide
import PoolLogin.Proofs.Scenario.Check
import PoolLogin.Scenario.Case

/-! Rows as scenarios. A row spells a worker name and its parts, so rows of
names that were read are scenarios that pass. -/

namespace PoolLogin

theorem WideText.ofText_beq (a b : Text) : (ofText a == ofText b) = (a == b) := by
  rw [Bool.eq_iff_iff, beq_iff_eq, beq_iff_eq]
  exact ⟨ofText_injective, congrArg ofText⟩

theorem Entries.get?_map {α β : Type} (f : α → β) (key : Text) (row : List (Text × α)) :
    Entries.get? (.ofText key) (row.map fun entry => (WideText.ofText entry.1, f entry.2)) =
      (Entries.get? key row).map f := by
  induction row with
  | nil => rfl
  | cons entry row ih =>
      obtain ⟨k, value⟩ := entry
      rw [List.map_cons, get?, get?, WideText.ofText_beq, ih]
      split_ifs <;> rfl

namespace Scenario

/-- The members of a row as an object. -/
def rowMembers (row : List (Text × Option Text)) : List (WideText × Json) :=
  row.map fun entry => (.ofText entry.1, .ofOption Json.ofText entry.2)

theorem obj_rowMembers (row : List (Text × Option Text)) : .obj (rowMembers row) = Json.ofRow row := by
  rw [Json.ofRow, Json.ofMembers, List.map_map, rowMembers]
  rfl

theorem get?_rowMembers (key : Text) (row : List (Text × Option Text)) :
    Entries.get? (.ofText key) (rowMembers row) =
      (Entries.get? key row).map (Json.ofOption Json.ofText) :=
  Entries.get?_map (Json.ofOption Json.ofText) key row

theorem get?_row (name : Text) (login : Login) (field : Field) :
    Entries.get? field.key (Login.row name login) = some (login.get field) := by
  cases field <;> rfl

/-- A row spells the name that it is about and all its parts, absent ones as null. -/
theorem spells_row (case : Text × Login) : Spells case (rowMembers (Login.row case.1 case.2)) where
  name := by
    rw [get?_rowMembers]
    rfl
  present field text h := by
    rw [get?_rowMembers, get?_row, h]
    rfl
  absent field h := by
    rw [get?_rowMembers, get?_row, h]
    exact Or.inr rfl

/-- A scenario that expects what is read passes. -/
theorem passes_ofTexts_parse (name : Text) : (ofTexts name (Login.parse name)).passes :=
  passes_iff.mpr (Login.parseWide_ofText name)

end Scenario

end PoolLogin
