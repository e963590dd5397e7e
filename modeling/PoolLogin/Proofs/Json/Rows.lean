import Mathlib.Data.List.Nodup
import PoolLogin.Login.Report
import PoolLogin.Proofs.Action
import PoolLogin.Proofs.Json.Characters
import PoolLogin.Proofs.Json.RoundTrip

/-! Rows as JSON. The keys of a row are different, so rows are read again in
whatever style they are written. -/

namespace PoolLogin.Json

theorem isSome_text?_ofText (text : Text) : (WideText.text? (.ofText text)).isSome := by
  rw [WideText.text?_ofText]
  rfl

theorem areScalar_eq (items : List Json) : areScalar items = items.all isScalar := by
  induction items with
  | nil => rfl
  | cons item items ih => rw [areScalar, ih, List.all_cons]

theorem allReadable_iff {depth : Nat} {items : List Json} :
    AllReadable depth items ↔ ∀ item ∈ items, Readable depth item := by
  induction items with
  | nil => simp [AllReadable]
  | cons item items ih => rw [AllReadable, ih, List.forall_mem_cons]

/-! ### Objects with keys that are texts -/

theorem isScalar_ofMembers (members : List (Text × Json)) :
    (ofMembers members).isScalar = members.all fun member => member.2.isScalar := by
  rw [ofMembers, isScalar]
  induction members with
  | nil => rfl
  | cons member members ih =>
      rw [List.map_cons, membersAreScalar, isSome_text?_ofText, Bool.true_and, ih, List.all_cons]

theorem membersReadable_map {depth : Nat} {members : List (Text × Json)}
    (h : ∀ member ∈ members, Readable depth member.2) :
    MembersReadable depth (members.map fun member => (.ofText member.1, member.2)) := by
  induction members with
  | nil => trivial
  | cons member members ih =>
      rw [List.forall_mem_cons] at h
      exact ⟨isSome_text?_ofText member.1, h.1, ih h.2⟩

theorem readable_ofMembers {depth : Nat} (hDepth : depth < maxDepth)
    {members : List (Text × Json)} (hKeys : (members.map (·.1)).Nodup)
    (h : ∀ member ∈ members, Readable (depth + 1) member.2) :
    Readable depth (ofMembers members) := by
  rw [ofMembers, Readable]
  refine ⟨hDepth, ?_, membersReadable_map h⟩
  have hMap : ((members.map (·.1)).map WideText.ofText).Nodup :=
    hKeys.map fun _ _ h => WideText.ofText_injective h
  rw [List.map_map] at hMap ⊢
  exact hMap

/-! ### Rows -/

theorem readable_ofRow {depth : Nat} (hDepth : depth < maxDepth) {row : List (Text × Option Text)}
    (hKeys : (row.map (·.1)).Nodup) : Readable depth (ofRow row) := by
  rw [ofRow]
  refine readable_ofMembers hDepth (by rwa [List.map_map]) ?_
  rw [List.forall_mem_map]
  rintro ⟨key, value⟩ _
  cases value with
  | none => trivial
  | some text => exact isSome_text?_ofText text

theorem allReadable_rows {depth : Nat} (hDepth : depth < maxDepth)
    {rows : List (List (Text × Option Text))} (hKeys : ∀ row ∈ rows, (row.map (·.1)).Nodup) :
    AllReadable depth (rows.map ofRow) := by
  rw [allReadable_iff, List.forall_mem_map]
  exact fun row hRow => readable_ofRow hDepth (hKeys row hRow)

/-! ### Reading rows -/

/-- An optional text without surrogates; null stands for an absent one. -/
def text? : Json → Option (Option Text)
  | .null => some none
  | .string s => s.text?.map some
  | _ => none

/-- The keys of the row of a name. -/
theorem keys_row (name : Text) (login : Login) :
    (Login.row name login).map (·.1) = Login.nameKey :: Field.all.map Field.key := rfl

theorem nodup_keys_row (name : Text) (login : Login) :
    ((Login.row name login).map (·.1)).Nodup := by
  rw [keys_row]
  decide

end PoolLogin.Json
