import PoolLogin.Proofs.Json.Content
import PoolLogin.Proofs.Scenario.Load
import PoolLogin.Scenario.Builtin

/-! Case files: which of them are loaded, and what is loaded of those that were
written. -/

namespace PoolLogin

namespace Json

theorem isSome_given?_iff {key : Text} {members : List (WideText × Json)} :
    (given? key members).isSome ↔ (Entries.get? (.ofText key) members).isSome ∧
      Entries.get? (.ofText key) members ≠ some .null := by
  rw [given?]
  cases Entries.get? (WideText.ofText key) members with
  | none => simp
  | some value => cases value <;> simp

theorem lists_ofObjects {p : List (WideText × Json) → Prop}
    {objects : List (List (WideText × Json))} :
    (ofObjects objects).Lists p ↔ ∀ members ∈ objects, p members := by
  constructor
  · rintro (hNull | ⟨others, hEq, hAll⟩)
    · cases hNull
    · have hObjects := (List.map_injective_iff.mpr fun _ _ => obj.inj) (arr.inj hEq)
      rwa [hObjects]
  · intro hAll
    exact Or.inr ⟨objects, rfl, hAll⟩

/-- Other properties hold of listed objects as well, if they follow for the items of an array. -/
theorem Lists.imp {p q : List (WideText × Json) → Prop} {value : Json}
    (hImp : ∀ items, value = .arr items → ∀ members, .obj members ∈ items → p members → q members)
    (h : value.Lists p) : value.Lists q := by
  rcases h with hNull | ⟨objects, hEq, hAll⟩
  · exact Or.inl hNull
  · exact Or.inr ⟨objects, hEq, fun members hMembers =>
      hImp _ hEq members (List.mem_map_of_mem hMembers) (hAll members hMembers)⟩

end Json

namespace Scenario

/-! ### Files that are loaded -/

theorem exists_describes_iff {members : List (WideText × Json)} :
    (∃ scenario, Describes members scenario) ↔ Accepted members := by
  simp only [← described?_eq_some_iff, ← Option.isSome_iff_exists, isSome_described?_iff]

theorem exists_forall₂_describes_iff {objects : List (List (WideText × Json))} :
    (∃ all, List.Forall₂ Describes objects all) ↔ ∀ members ∈ objects, Accepted members := by
  induction objects with
  | nil => simp
  | cons members objects ih =>
      rw [List.forall_mem_cons, ← exists_describes_iff, ← ih]
      constructor
      · rintro ⟨_, _ | ⟨hFirst, hRest⟩⟩
        exact ⟨⟨_, hFirst⟩, _, hRest⟩
      · rintro ⟨⟨_, hFirst⟩, _, hRest⟩
        exact ⟨_, .cons hFirst hRest⟩

theorem exists_tells_iff {value : Json} : (∃ all, Tells value all) ↔ value.Lists Accepted := by
  constructor
  · rintro ⟨all, ⟨hNull, _⟩ | ⟨objects, hEq, hAll⟩⟩
    · exact Or.inl hNull
    · exact Or.inr ⟨objects, hEq, exists_forall₂_describes_iff.mp ⟨all, hAll⟩⟩
  · rintro (hNull | ⟨objects, hEq, hAll⟩)
    · exact ⟨[], Or.inl ⟨hNull, rfl⟩⟩
    · obtain ⟨all, hAll⟩ := exists_forall₂_describes_iff.mpr hAll
      exact ⟨all, Or.inr ⟨objects, hEq, hAll⟩⟩

/-- A complete object is accepted, and among those without a null name no others are. -/
theorem complete_iff {members : List (WideText × Json)} :
    Complete members ↔ Accepted members ∧
      Entries.get? (.ofText Login.nameKey) members ≠ some .null := by
  constructor
  · rintro ⟨hName, hPrimary⟩
    obtain ⟨hName, hNull⟩ := Json.isSome_given?_iff.mp hName
    exact ⟨⟨hName, hPrimary⟩, hNull⟩
  · rintro ⟨⟨hName, hPrimary⟩, hNull⟩
    exact ⟨Json.isSome_given?_iff.mpr ⟨hName, hNull⟩, hPrimary⟩

/-- A case file is loaded exactly if it holds JSON that tells scenarios, and
gives those. That is so if it is null or a list of objects, every one of them
with a worker name and with a payout id that is not null. As long as no
worker name is null either, these are the complete ones. All other files are
refused, unless there are too many brackets in them. -/
theorem case_file_loaded_iff {tree : FileTree} {path : Path}
    (hName : ∀ ending ∈ yamlSuffixes, ¬ending <:+ Text.lowercase (path.names.getLastD []))
    {content : Bytes} (hFile : tree.content? path = some content) :
    (∀ all, load tree path = .ok all ↔ ∃ value, Json.Holds content value ∧ Tells value all) ∧
    ((∃ all, load tree path = .ok all) ↔
      ∃ value, Json.Holds content value ∧ value.Lists Accepted) ∧
    ((∀ items, Json.Holds content (.arr items) → ∀ members, .obj members ∈ items →
        Entries.get? (.ofText Login.nameKey) members ≠ some .null) →
      ((∃ all, load tree path = .ok all) ↔
        ∃ value, Json.Holds content value ∧ value.Lists Complete)) ∧
    ∀ fault, load tree path = .error fault →
      fault.isRefusal = true ∨ ∃ text bracket, Json.read text = .error (.tooDeep bracket) ∧
        fault = .notJson text (.tooDeep bracket) := by
  have hPath := isYaml_eq_false hName
  have hLoad : load tree path = ofContent path content := by
    rw [load, FileTree.readFile_of_content? hFile]
    rfl
  have hLoaded : (∃ all, load tree path = .ok all) ↔
      ∃ value, Json.Holds content value ∧ value.Lists Accepted := by
    simp only [hLoad, ofContent_ok_iff hPath, ← exists_tells_iff]
    constructor
    · rintro ⟨all, value, hValue, hAll⟩
      exact ⟨value, hValue, all, hAll⟩
    · rintro ⟨value, hValue, all, hAll⟩
      exact ⟨all, value, hValue, hAll⟩
  refine ⟨fun all => ?_, hLoaded, fun hNull => ?_, fun fault hFault => ?_⟩
  · rw [hLoad]
    exact ofContent_ok_iff hPath
  · rw [hLoaded]
    constructor
    · rintro ⟨value, hValue, hAll⟩
      refine ⟨value, hValue, hAll.imp ?_⟩
      rintro items rfl members hMembers hAccepted
      exact complete_iff.mpr ⟨hAccepted, hNull items hValue members hMembers⟩
    · rintro ⟨value, hValue, hAll⟩
      exact ⟨value, hValue, hAll.imp fun _ _ _ _ hComplete => (complete_iff.mp hComplete).1⟩
  · rw [hLoad] at hFault
    exact isRefusal_of_ofContent hPath hFault

/-- A list of two cases is refused, as one of them has null for its payout id. -/
theorem case_file_with_null_primary :
    let objects : List (List (WideText × Json)) :=
      [[(.ofText "workername".toList, .ofText "a".toList),
        (.ofText "primary_id".toList, .ofText "a".toList)],
      [(.ofText "workername".toList, .ofText "b".toList), (.ofText "primary_id".toList, .null)]]
    let tree : FileTree :=
      { entries := [(Path.ofText "cases.json".toList,
          .file (Utf8.encode (Json.write .ascii (.ofObjects objects))))] }
    ∀ all, load tree (.ofText "cases.json".toList) ≠ .ok all := by
  intro objects tree all hAll
  have hHolds := Json.holds_write_ascii (show Json.Readable 0 (.ofObjects objects) by decide +kernel)
  have hFile : tree.content? (.ofText "cases.json".toList) =
      some (Utf8.encode (Json.write .ascii (.ofObjects objects))) := rfl
  obtain ⟨_, _, hComplete, _⟩ := case_file_loaded_iff (by decide +kernel) hFile
  have hNames : ∀ items, Json.Holds (Utf8.encode (Json.write .ascii (.ofObjects objects)))
      (.arr items) → ∀ members, .obj members ∈ items →
        Entries.get? (.ofText Login.nameKey) members ≠ some .null := by
    intro items hItems members hMembers
    cases hItems.unique hHolds
    rcases hMembers with _ | ⟨_, _ | ⟨_, ⟨⟩⟩⟩ <;> rintro ⟨⟩
  obtain ⟨value, hValue, hLists⟩ := (hComplete hNames).mp ⟨all, hAll⟩
  rw [hValue.unique hHolds, Json.lists_ofObjects] at hLists
  cases (hLists objects[1] (List.getElem_mem _)).primary

/-- A null worker name is taken for the text `None`. -/
theorem null_name_loaded :
    let objects : List (List (WideText × Json)) :=
      [[(.ofText "workername".toList, .null), (.ofText "primary_id".toList, .ofText "a".toList)]]
    let content := Utf8.encode "[\x7b\"workername\": null, \"primary_id\": \"a\"\x7d]".toList
    let tree : FileTree := { entries := [(Path.ofText "cases.json".toList, .file content)] }
    Json.Holds content (.ofObjects objects) ∧ ¬(Json.ofObjects objects).Lists Complete ∧
      load tree (.ofText "cases.json".toList) = .ok [ofLiterals "None" "a"] := by
  intro objects content tree
  have hContent : content = Utf8.encode (Json.write .ascii (.ofObjects objects)) := rfl
  refine ⟨?_, ?_, ?_⟩
  · rw [hContent]
    exact Json.holds_write_ascii (by decide +kernel)
  · rw [Json.lists_ofObjects]
    intro hLists
    cases (hLists objects[0] (List.getElem_mem _)).name
  · exact Action.eq_ok_of_toOption (by decide +kernel)

/-! ### Files that were written -/

theorem get_ofTexts (name : Text) (login : Login) (field : Field) :
    (ofTexts name login).expected.get field = (login.get field).map .ofText := by
  cases field <;> rfl

/-- An object that spells a scenario describes it, whatever else it holds. -/
theorem Spells.describes {case : Text × Login} {members : List (WideText × Json)}
    (h : Spells case members) : Describes members (ofTexts case.1 case.2) where
  name := by
    rw [h.name]
    rfl
  part field := by
    rw [get_ofTexts, Json.given?]
    cases hPart : case.2.get field with
    | some text =>
        rw [h.present field text hPart]
        rfl
    | none =>
        rcases h.absent field hPart with hMissing | hNull
        · rw [hMissing]
          rfl
        · rw [hNull]
          rfl

/-- A file of objects that spell scenarios gives these. -/
theorem ofContent_of_spells {path : Path} (hPath : isYaml path = false)
    {cases : List (Text × Login)} {objects : List (List (WideText × Json))}
    (hCases : List.Forall₂ Spells cases objects) {content : Bytes}
    (hContent : Json.Holds content (.ofObjects objects)) :
    ofContent path content = .ok (cases.map fun case => ofTexts case.1 case.2) := by
  rw [ofContent_ok_iff hPath]
  refine ⟨.ofObjects objects, hContent, Or.inr ⟨objects, rfl, ?_⟩⟩
  rw [List.forall₂_map_right_iff]
  exact hCases.flip.imp fun _ _ h => h.describes

/-- However scenarios are written as JSON objects, in one line of ASCII, they
are loaded as they were. The keys of an object may stand in any order and
among others with any values, as long as these can be read again, and absent
parts may be null or left out. Names and parts are made of characters here, and
none of the other values holds a surrogate or a fraction. -/
theorem written_cases_read_back {cases : List (Text × Login)}
    {objects : List (List (WideText × Json))} (hCases : List.Forall₂ Spells cases objects)
    (hReadable : Json.Readable 0 (.ofObjects objects)) {tree : FileTree} {path : Path}
    (hName : ∀ ending ∈ yamlSuffixes, ¬ending <:+ Text.lowercase (path.names.getLastD []))
    (hFile : tree.content? path =
      some (Utf8.encode (Json.write .ascii (.ofObjects objects)))) :
    load tree path = .ok (cases.map fun case => ofTexts case.1 case.2) := by
  rw [load, FileTree.readFile_of_content? hFile]
  exact ofContent_of_spells (isYaml_eq_false hName) hCases (Json.holds_write_ascii hReadable)

/-- Two cases. One has its keys in another order and among more of them, and an empty domain; the
other has one absent part as null and the others left out. -/
theorem two_written_cases_read_back :
    let objects : List (List (WideText × Json)) :=
      [[(.ofText "primary_id".toList, .ofText "a".toList),
        (.ofText "note".toList, .arr [.int (-1), .obj [(.ofText ['x'], .null)]]),
        (.ofText "domain".toList, .ofText []),
        (.ofText "workername".toList, .ofText "a.ä\n@".toList),
        (.ofText "secondary_id".toList, .ofText "ä\n".toList)],
      [(.ofText "workername".toList, .ofText "c".toList),
        (.ofText "domain".toList, .null),
        (.ofText "primary_id".toList, .ofText "c".toList)]]
    let tree : FileTree :=
      { entries := [(Path.ofText "cases.json".toList,
          .file (Utf8.encode (Json.write .ascii (.ofObjects objects))))] }
    load tree (.ofText "cases.json".toList) =
      .ok [ofLiterals "a.ä\n@" "a" (some "ä\n") (some ""), ofLiterals "c" "c"] := by
  intro objects tree
  have hFirst : Spells
      ("a.ä\n@".toList, { primary := ['a'], secondary := some "ä\n".toList, domain := some [] })
      objects[0] :=
    { name := rfl
      present := by
        intro field text h
        cases field <;> cases h <;> rfl
      absent := by
        intro field h
        cases field <;> cases h
        exact Or.inl rfl }
  have hSecond : Spells (['c'], { primary := ['c'] }) objects[1] :=
    { name := rfl
      present := by
        intro field text h
        cases field <;> cases h
        rfl
      absent := by
        intro field h
        cases field with
        | primary => cases h
        | secondary => exact Or.inl rfl
        | domain => exact Or.inr rfl
        | suffix => exact Or.inl rfl }
  exact written_cases_read_back (.cons hFirst (.cons hSecond .nil)) (by decide +kernel)
    (by decide +kernel) rfl

end Scenario

end PoolLogin
