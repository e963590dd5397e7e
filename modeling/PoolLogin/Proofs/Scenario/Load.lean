import PoolLogin.Proofs.Action
import PoolLogin.Proofs.FileTree.Read
import PoolLogin.Proofs.Json.Bounds
import PoolLogin.Proofs.Json.Content
import PoolLogin.Proofs.Scenario.Check
import PoolLogin.Scenario.Case
import PoolLogin.Scenario.Load

/-! Loading case files that are JSON. What is read of them can always be
written, so they give scenarios exactly if they tell them, and all others
are refused. -/

namespace PoolLogin

/-! ### Looking up keys -/

theorem Entries.get?_ofMembers (key : WideText) (members : List (WideText × Json)) :
    Entries.get? (.string key) (Datum.ofMembers members) =
      (Entries.get? key members).map Datum.ofJson := by
  induction members with
  | nil => rfl
  | cons member members ih =>
      obtain ⟨k, value⟩ := member
      have hKey : (Datum.string k == .string key) = (k == key) := rfl
      rw [Datum.ofMembers, get?, get?, hKey, ih]
      split_ifs <;> rfl

/-- The value of a key is that of an entry. -/
theorem Entries.mem_of_get? {κ α : Type} [BEq κ] [LawfulBEq κ] {key : κ} {entries : Entries κ α}
    {value : α} (h : entries.get? key = some value) : (key, value) ∈ entries := by
  induction entries with
  | nil => cases h
  | cons entry entries ih =>
      obtain ⟨k, a⟩ := entry
      by_cases hKey : k = key
      · rw [get?, if_pos (by simpa using hKey)] at h
        cases h
        rw [hKey]
        exact List.mem_cons_self
      · rw [get?, if_neg (by simpa using hKey)] at h
        exact List.mem_cons_of_mem (k, a) (ih h)

theorem Datum.ofItems_eq_map (items : List Json) : ofItems items = items.map ofJson := by
  induction items with
  | nil => rfl
  | cons item items ih => rw [ofItems, ih, List.map_cons]

namespace Scenario

/-! ### Objects -/

/-- An object as a map of a case file, with its entries. -/
def mapOf (members : List (WideText × Json)) : Datum × Entries Datum Datum :=
  (.map (Datum.ofMembers members), Datum.ofMembers members)

/-- The scenario that an object describes, if there is one. -/
def described? (members : List (WideText × Json)) : Option Scenario := do
  let part := fun field : Field => (Json.given? field.key members).map Json.plain
  let name ← Entries.get? (.ofText Login.nameKey) members
  let primary ← part .primary
  return {
    name := name.plain
    expected := {
      primary, secondary := part .secondary, domain := part .domain, suffix := part .suffix } }

theorem described?_eq_some_iff {members : List (WideText × Json)} {scenario : Scenario} :
    described? members = some scenario ↔ Describes members scenario := by
  rw [described?]
  constructor
  · intro h
    obtain ⟨name, hName, h⟩ := Option.bind_eq_some_iff.mp h
    obtain ⟨primary, hPrimary, h⟩ := Option.bind_eq_some_iff.mp h
    cases h
    refine ⟨by rw [hName]; rfl, fun field => ?_⟩
    cases field with
    | primary => exact hPrimary
    | _ => rfl
  · rintro ⟨hName, hPart⟩
    obtain ⟨name, hName, hEq⟩ := Option.map_eq_some_iff.mp hName
    simp only [hName, hEq, hPart, Parts.get, bind, Option.bind, pure]

/-- An object describes a scenario if it has a worker name, null or not, and a payout id. -/
theorem isSome_described?_iff {members : List (WideText × Json)} :
    (described? members).isSome ↔ Accepted members := by
  have hBoth : Accepted members ↔ (Entries.get? (.ofText Login.nameKey) members).isSome ∧
      (Json.given? Field.primary.key members).isSome :=
    ⟨fun h => ⟨h.name, h.primary⟩, fun h => ⟨h.1, h.2⟩⟩
  rw [hBoth, described?]
  cases Entries.get? (WideText.ofText Login.nameKey) members with
  | none => simp
  | some name => cases hPrimary : Json.given? Field.primary.key members <;> simp [hPrimary]

/-- Why an object describes none. -/
def flawOf (members : List (WideText × Json)) : Flaw :=
  match Entries.get? (.ofText Login.nameKey) members with
  | none => .noName (mapOf members).1
  | some name => .noPrimary name.plain

theorem isRefusal_flawOf (members : List (WideText × Json)) :
    (LoadFault.flawed (flawOf members)).isRefusal = true := by
  rw [flawOf]
  cases Entries.get? (WideText.ofText Login.nameKey) members <;> rfl

section

variable {members : List (WideText × Json)} (h : Json.Bounded Json.maxDepth (.obj members))

include h

theorem plainText_ofJson {key : WideText} {value : Json}
    (hValue : Entries.get? key members = some value) :
    plainText (Datum.ofJson value) = .ok value.plain := by
  rw [plainText, (h.member (Entries.mem_of_get? hValue)).unwritable?]
  rfl

theorem fieldText?_ofMembers (field : Field) :
    fieldText? id (Datum.ofMembers members) field =
      .ok ((Json.given? field.key members).map Json.plain) := by
  rw [fieldText?, Entries.get?_ofMembers, Json.given?]
  cases hValue : Entries.get? (WideText.ofText field.key) members with
  | none => rfl
  | some value =>
      have hPlain := plainText_ofJson h hValue
      cases value with
      | null => rfl
      | _ => exact congrArg (Except.map some) hPlain

/-- An object gives the scenario that it describes, and is refused if it describes none. -/
theorem ofEntries_mapOf :
    ofEntries id (mapOf members).1 (mapOf members).2 =
      match described? members with
      | some scenario => .ok scenario
      | none => .error (flawOf members) := by
  have hWhole : (mapOf members).1.unwritable? = none := h.unwritable?
  rw [described?, flawOf, ofEntries, mapOf, Entries.get?_ofMembers]
  cases hName : Entries.get? (WideText.ofText Login.nameKey) members with
  | none =>
      rw [mapOf] at hWhole
      simp only [Option.map_none, id, hWhole, Option.getD_none]
      rfl
  | some name =>
      simp only [Option.map_some, id, plainText_ofJson h hName]
      rw [fieldText?_ofMembers h, fieldText?_ofMembers h, fieldText?_ofMembers h,
        fieldText?_ofMembers h]
      cases Json.given? Field.primary.key members <;> rfl

/-- An object gives a scenario exactly if it describes it. -/
theorem ofEntries_ok_iff {scenario : Scenario} :
    ofEntries id (mapOf members).1 (mapOf members).2 = .ok scenario ↔
      Describes members scenario := by
  rw [ofEntries_mapOf h, ← described?_eq_some_iff]
  cases described? members <;> simp

theorem isRefusal_of_ofEntries {flaw : Flaw}
    (hFlaw : ofEntries id (mapOf members).1 (mapOf members).2 = .error flaw) :
    (LoadFault.flawed flaw).isRefusal = true := by
  rw [ofEntries_mapOf h] at hFlaw
  split at hFlaw
  · cases hFlaw
  · cases hFlaw
    exact isRefusal_flawOf members

end

/-! ### Items -/

/-- Only objects are taken from a list. -/
theorem entry_ok_iff {path : Path} {item : Json} {found : Datum × Entries Datum Datum} :
    entry path id (Datum.ofJson item).item = .ok found ↔
      ∃ members, item = .obj members ∧ found = mapOf members := by
  cases item with
  | obj members =>
      constructor
      · intro h
        exact ⟨members, rfl, (Except.ok.inj h).symm⟩
      · rintro ⟨_, hEq, rfl⟩
        cases hEq
        rfl
  | _ =>
      constructor
      · intro h
        cases h
      · rintro ⟨_, hEq, _⟩
        cases hEq

theorem isRefusal_of_entry {path : Path} {item : Json} {fault : LoadFault}
    (hItem : (Datum.ofJson item).unwritable? = none)
    (h : entry path id (Datum.ofJson item).item = .error fault) : fault.isRefusal = true := by
  have hOther : ∀ datum : Datum, datum.unwritable? = none →
      entry path id (.other datum) = .error (.notMap path datum) := by
    intro datum hDatum
    rw [entry]
    simp only [id, hDatum]
    rfl
  cases item with
  | obj members => cases h
  | _ =>
      cases (hOther _ hItem).symm.trans h
      rfl

/-! ### Lists of items -/

section

variable {path : Path} {items : List Json}

theorem ofDocument_arr (path : Path) (items : List Json) :
    ofDocument path id (Datum.ofJson (.arr items)).document =
      (items.mapM fun item => entry path id (Datum.ofJson item).item) >>= fun entries =>
        (entries.mapM fun found => ofEntries id found.1 found.2).mapError .flawed := by
  rw [Datum.ofJson, Datum.ofItems_eq_map, Datum.document, List.map_map, ofDocument, List.mapM_map]
  rfl

theorem objects_of_mapM_entry {entries : List (Datum × Entries Datum Datum)}
    (h : (items.mapM fun item => entry path id (Datum.ofJson item).item) = .ok entries) :
    ∃ objects : List (List (WideText × Json)),
      items = objects.map .obj ∧ entries = objects.map mapOf := by
  rw [Action.mapM_eq_ok_iff] at h
  induction h with
  | nil => exact ⟨[], rfl, rfl⟩
  | cons hItem _ ih =>
      obtain ⟨members, rfl, rfl⟩ := entry_ok_iff.mp hItem
      obtain ⟨objects, rfl, rfl⟩ := ih
      exact ⟨members :: objects, rfl, rfl⟩

theorem mapM_ofEntries_ok_iff {objects : List (List (WideText × Json))}
    (h : ∀ members ∈ objects, Json.Bounded Json.maxDepth (.obj members)) {all : List Scenario} :
    (objects.map mapOf).mapM (fun found => ofEntries id found.1 found.2) = .ok all ↔
      List.Forall₂ Describes objects all := by
  rw [List.mapM_map, Action.mapM_eq_ok_iff]
  constructor
  · intro hAll
    exact ((List.forall₂_and_left _ _).mpr ⟨h, hAll⟩).imp
      fun _ _ hFound => (ofEntries_ok_iff hFound.1).mp hFound.2
  · intro hAll
    exact ((List.forall₂_and_left _ _).mpr ⟨h, hAll⟩).imp
      fun _ _ hFound => (ofEntries_ok_iff hFound.1).mpr hFound.2

variable (hBounded : Json.Bounded Json.maxDepth (.arr items))

include hBounded

/-- A list gives scenarios exactly if all its items are objects that describe them. -/
theorem ofDocument_arr_ok_iff {all : List Scenario} :
    ofDocument path id (Datum.ofJson (.arr items)).document = .ok all ↔
      ∃ objects : List (List (WideText × Json)),
        items = objects.map .obj ∧ List.Forall₂ Describes objects all := by
  rw [ofDocument_arr]
  constructor
  · intro h
    obtain ⟨entries, hEntries, h⟩ := Action.exists_of_bind_ok h
    obtain ⟨objects, rfl, rfl⟩ := objects_of_mapM_entry hEntries
    have hAll := Action.mapError_eq_ok_iff.mp h
    exact ⟨objects, rfl, (mapM_ofEntries_ok_iff fun _ hMembers =>
      hBounded.item (List.mem_map_of_mem hMembers)).mp hAll⟩
  · rintro ⟨objects, rfl, hAll⟩
    have hEntries : (objects.map Json.obj).mapM
        (fun item => entry path id (Datum.ofJson item).item) = .ok (objects.map mapOf) := by
      rw [List.mapM_map]
      exact Action.mapM_ok fun _ _ => rfl
    have hFound := (mapM_ofEntries_ok_iff fun _ hMembers =>
      hBounded.item (List.mem_map_of_mem hMembers)).mpr hAll
    rw [hEntries]
    exact Action.mapError_eq_ok_iff.mpr hFound

/-- What is wrong with a list makes its file one to be refused. -/
theorem isRefusal_of_ofDocument_arr {fault : LoadFault}
    (h : ofDocument path id (Datum.ofJson (.arr items)).document = .error fault) :
    fault.isRefusal = true := by
  rw [ofDocument_arr] at h
  rcases Action.bind_eq_error_cases h with hEntries | ⟨entries, hEntries, h⟩
  · obtain ⟨item, hItem, hFault⟩ := Action.exists_of_mapM_error hEntries
    exact isRefusal_of_entry (hBounded.item hItem).unwritable? hFault
  · obtain ⟨objects, rfl, rfl⟩ := objects_of_mapM_entry hEntries
    obtain ⟨flaw, hAll, rfl⟩ := Action.mapError_eq_error_iff.mp h
    rw [List.mapM_map] at hAll
    obtain ⟨members, hMembers, hFlaw⟩ := Action.exists_of_mapM_error hAll
    exact isRefusal_of_ofEntries (hBounded.item (List.mem_map_of_mem hMembers)) hFlaw

end

/-! ### Whole files -/

/-- A value tells scenarios if it is null, which tells none, or a list of objects that describe them
one by one. -/
def Tells (value : Json) (all : List Scenario) : Prop :=
  value = .null ∧ all = [] ∨
    ∃ objects, value = .ofObjects objects ∧ List.Forall₂ Describes objects all

/-- A file whose name has no ending of YAML is read as JSON. -/
theorem isYaml_eq_false {path : Path}
    (h : ∀ ending ∈ yamlSuffixes, ¬ending <:+ Text.lowercase (path.names.getLastD [])) :
    isYaml path = false := by
  rw [isYaml, Bool.eq_false_iff]
  intro hYaml
  apply h _ (List.contains_iff_mem.mp hYaml)
  exact (Path.nameSuffix_suffix _).map _

section

variable {path : Path} {value : Json} (hBounded : Json.Bounded Json.maxDepth value)

include hBounded

theorem ofDocument_ok_iff {all : List Scenario} :
    ofDocument path id (Datum.ofJson value).document = .ok all ↔ Tells value all := by
  rw [Tells]
  cases value with
  | null =>
      constructor
      · intro h
        exact Or.inl ⟨rfl, (Except.ok.inj h).symm⟩
      · rintro (⟨_, rfl⟩ | ⟨objects, hEq, _⟩)
        · rfl
        · cases hEq
  | arr items =>
      rw [ofDocument_arr_ok_iff hBounded]
      simp [Json.ofObjects]
  | _ =>
      constructor
      · intro h
        cases h
      · rintro (⟨hEq, _⟩ | ⟨objects, hEq, _⟩)
        · cases hEq
        · cases hEq

theorem isRefusal_of_ofDocument {fault : LoadFault}
    (h : ofDocument path id (Datum.ofJson value).document = .error fault) :
    fault.isRefusal = true := by
  cases value with
  | null => cases h
  | arr items => exact isRefusal_of_ofDocument_arr hBounded h
  | _ =>
      cases h
      rfl

end

section

variable {path : Path} (hPath : isYaml path = false) {content : Bytes}

include hPath

theorem ofText_json (text : Text) :
    ofText path text = (do
      let value ← (Json.read text).mapError (.notJson text)
      ofDocument path id (Datum.ofJson value).document) := by
  rw [ofText, hPath, if_neg Bool.false_ne_true]

/-- A file gives scenarios exactly if it holds JSON that tells them. -/
theorem ofContent_ok_iff {all : List Scenario} :
    ofContent path content = .ok all ↔ ∃ value, Json.Holds content value ∧ Tells value all := by
  rw [ofContent]
  constructor
  · intro h
    obtain ⟨text, hText, h⟩ := Action.exists_of_bind_ok h
    rw [ofText_json hPath] at h
    obtain ⟨value, hValue, h⟩ := Action.exists_of_bind_ok h
    rw [Action.mapError_eq_ok_iff] at hText hValue
    exact ⟨value, ⟨text, hText, hValue⟩, (ofDocument_ok_iff (Json.bounded_of_read hValue)).mp h⟩
  · rintro ⟨value, ⟨text, hText, hValue⟩, hAll⟩
    rw [hText]
    change ofText path (Text.unifyNewlines text) = _
    rw [ofText_json hPath, hValue]
    exact (ofDocument_ok_iff (Json.bounded_of_read hValue)).mpr hAll

/-- All other files are refused, unless there are too many brackets in them to say what is wrong. -/
theorem isRefusal_of_ofContent {fault : LoadFault} (h : ofContent path content = .error fault) :
    fault.isRefusal = true ∨
      ∃ text bracket, Json.read text = .error (.tooDeep bracket) ∧
        fault = .notJson text (.tooDeep bracket) := by
  rw [ofContent] at h
  rcases Action.bind_eq_error_cases h with hText | ⟨text, _, h⟩
  · obtain ⟨flaw, _, rfl⟩ := Action.mapError_eq_error_iff.mp hText
    exact Or.inl rfl
  rw [ofText_json hPath] at h
  rcases Action.bind_eq_error_cases h with hValue | ⟨value, hValue, h⟩
  · obtain ⟨flaw, hRead, rfl⟩ := Action.mapError_eq_error_iff.mp hValue
    cases flaw with
    | tooDeep bracket => exact Or.inr ⟨_, bracket, hRead, rfl⟩
    | _ => exact Or.inl rfl
  · rw [Action.mapError_eq_ok_iff] at hValue
    exact Or.inl (isRefusal_of_ofDocument (Json.bounded_of_read hValue) h)

end

end Scenario

end PoolLogin
