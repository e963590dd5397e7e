import PoolLogin.Proofs.Action
import PoolLogin.Proofs.Json.Content
import PoolLogin.Proofs.Json.Rows
import PoolLogin.Proofs.Scenario.Rows
import PoolLogin.Proofs.Yaml.Rounds
import PoolLogin.Scenario.Load

/-! Case files that are YAML. What is shown of names as JSON is read from them
as it is from files that are JSON. -/

namespace PoolLogin

namespace Yaml.Cells

variable {cells : Cells} {v : ValueId} {datum : Datum}

theorem view_eq (h : cells[v]? = some (.scalar datum)) : cells.view v = datum := by
  rw [view, viewIn]
  simp only [cell, h, Option.getD_some]

theorem get?_entries {entries : List (ValueId × ValueId)} {row : Row}
    (h : List.Forall₂ cells.HasEntry entries row) (key : Text) :
    (Entries.get? (.string (.ofText key))
      (entries.map fun (key, value) => (cells.scalar key, value))).map cells.view =
      (Entries.get? key row).map datumOf := by
  induction h with
  | nil => rfl
  | @cons entry pair entries row hEntry _ ih =>
      obtain ⟨hKey, hValue⟩ := hEntry
      have hSame : (cells.scalar entry.1 == .string (.ofText key)) = (pair.1 == key) := by
        rw [Values.scalar_eq hKey]
        exact WideText.ofText_beq pair.1 key
      rw [List.map_cons, Entries.get?, Entries.get?, hSame]
      split_ifs
      · exact congrArg some (view_eq hValue)
      · exact ih

/-- The entries of the map in a cell, their keys as they are. -/
def entriesAt (cells : Cells) (v : ValueId) : Entries Datum ValueId :=
  match cells.cell v with
  | .map entries => entries.map fun (key, value) => (cells.scalar key, value)
  | _ => []

theorem item_eq {row : Row} (h : cells.HasRow v row) :
    cells.item v = .map v (cells.entriesAt v) := by
  obtain ⟨entries, hCell, _⟩ := h
  rw [item, entriesAt, cell, hCell]
  rfl

theorem get?_entriesAt {row : Row} (h : cells.HasRow v row) (key : Text) :
    (Entries.get? (.string (.ofText key)) (cells.entriesAt v)).map cells.view =
      (Entries.get? key row).map datumOf := by
  obtain ⟨entries, hCell, hEntries⟩ := h
  rw [entriesAt, cell, hCell]
  exact get?_entries hEntries key

end Yaml.Cells

namespace Scenario

open Yaml (Row datumOf)

section

variable {ν : Type} {view : ν → Datum} {entries : Entries Datum ν} {name : Text} {login : Login}

/-- A map that holds a row gives the scenario of the row. -/
theorem ofEntries_of_row (whole : ν)
    (h : ∀ key, (Entries.get? (.string (.ofText key)) entries).map view =
      (Entries.get? key (Login.row name login)).map datumOf) :
    ofEntries view whole entries = .ok (ofTexts name login) := by
  have hField : ∀ field, fieldText? view entries field =
      .ok ((login.get field).map .ofText) := by
    intro field
    rw [fieldText?, h, get?_row]
    cases login.get field <;> rfl
  have hName := h Login.nameKey
  cases hValue : Entries.get? (.string (.ofText Login.nameKey)) entries with
  | none =>
      rw [hValue] at hName
      cases hName
  | some value =>
      rw [hValue] at hName
      have hView : view value = .string (.ofText name) := Option.some.inj hName
      rw [ofEntries, hValue]
      simp only [hView, hField]
      rfl

end

variable {path : Path} {cases : List (Text × Login)}

theorem ofDocument_of_rows {cells : Yaml.Cells} {items : List Yaml.ValueId}
    (h : List.Forall₂ cells.HasRow items (cases.map fun case => Login.row case.1 case.2)) :
    ofDocument path cells.view (.list (items.map cells.item)) =
      .ok (cases.map fun case => ofTexts case.1 case.2) := by
  have hMaps : (items.map cells.item).mapM (entry path cells.view) =
      .ok (items.map fun v => (v, cells.entriesAt v)) := by
    rw [List.mapM_map]
    apply Action.mapM_ok
    intro v hv
    obtain ⟨row, _, hRow⟩ := Yaml.exists_related h hv
    rw [Function.comp_apply, Yaml.Cells.item_eq hRow]
    rfl
  have hAll : (items.map fun v => (v, cells.entriesAt v)).mapM
      (fun found => ofEntries cells.view found.1 found.2) =
        .ok (cases.map fun case => ofTexts case.1 case.2) := by
    rw [List.mapM_map, Action.mapM_eq_ok_iff, List.forall₂_map_right_iff]
    rw [List.forall₂_map_right_iff] at h
    exact h.imp fun v case hRow =>
      ofEntries_of_row v (Yaml.Cells.get?_entriesAt hRow)
  rw [ofDocument, hMaps]
  exact congrArg (Except.mapError LoadFault.flawed) hAll

/-- Rows that are shown are the scenarios that expect what the rows tell, also as YAML. -/
theorem ofContent_yaml_rows (hPath : isYaml path = true) (hNonempty : cases ≠ [])
    (hCommon : ∀ case ∈ cases, ∀ pair ∈ Login.row case.1 case.2, Yaml.IsCommonPair pair)
    {rows : List Json} (hRows : rows = cases.map fun case => .ofRow (Login.row case.1 case.2))
    (hReadable : Json.Readable 0 (.arr rows)) :
    ofContent path (Utf8.encode (Json.write .indented (.arr rows) ++ ['\n'])) =
      .ok (cases.map fun case => ofTexts case.1 case.2) := by
  have hReturn : '\r' ∉ Json.write .indented (.arr rows) ++ ['\n'] :=
    Json.return_notMem_write Json.writes_indented (by decide) hReadable (by decide)
  have hSome : (cases.map fun case => Login.row case.1 case.2) ≠ [] := by simpa using hNonempty
  obtain ⟨values, items, hRead, hRoot, hFound⟩ := Yaml.read_table hSome (by
      rw [List.forall_mem_map]
      exact fun case hCase => ⟨List.cons_ne_nil _ _, hCommon case hCase⟩) (by
      rw [List.forall_mem_map]
      exact fun case _ => Json.nodup_keys_row case.1 case.2)
  have hDocument : values.document = .list (items.map values.cells.item) := by
    rw [Yaml.Values.document, Yaml.Cells.cell, hRoot]
    rfl
  rw [ofContent, Utf8.decode_encode]
  change ofText path (Text.unifyNewlines _) = _
  simp only [List.map_map, Function.comp_def] at hRead
  rw [Text.unifyNewlines_of_notMem hReturn, ofText, if_pos hPath, hRows, hRead]
  change ofDocument path values.cells.view values.document = _
  rw [hDocument]
  exact ofDocument_of_rows hFound

end Scenario

end PoolLogin
