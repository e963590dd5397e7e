import PoolLogin.Proofs.Command.Golden
import PoolLogin.Proofs.Login.Form
import PoolLogin.Proofs.Login.Truncate
import PoolLogin.Proofs.Scenario.Yaml

/-! Case files in two formats. What is shown of names is read alike as JSON and
as YAML. -/

namespace PoolLogin

namespace Login

/-- The pairs of the row of a name are common if its characters are. -/
theorem isCommonPair_row {name : Text} (h : ∀ c ∈ name, Yaml.Quoted.IsCommon c) :
    ∀ pair ∈ row name (parse name), Yaml.IsCommonPair pair := by
  have hKeys : ∀ key ∈ nameKey :: Field.all.map Field.key,
      key.all (fun c => decide (Yaml.Quoted.IsCommon c)) = true ∧
        (Yaml.Quoted.written key).length < 1024 := by
    decide
  have hCommon : ∀ {key : Text}, key.all (fun c => decide (Yaml.Quoted.IsCommon c)) = true →
      ∀ c ∈ key, Yaml.Quoted.IsCommon c :=
    fun hAll c hc => of_decide_eq_true (List.all_eq_true.mp hAll c hc)
  obtain ⟨hName, hFields⟩ := List.forall_mem_cons.mp hKeys
  rw [row, List.forall_mem_cons, List.forall_mem_map]
  refine ⟨⟨hCommon hName.1, hName.2, ?_⟩, ?_⟩
  · rintro text ⟨⟩
    exact h
  · intro field hField
    obtain ⟨hKey, hShort⟩ := hFields _ (List.mem_map_of_mem hField)
    exact ⟨hCommon hKey, hShort, fun text hText c hc => h c (mem_of_get_parse hText hc)⟩

end Login

namespace Command

/-- However a file of names that are shown as JSON is called, and so whether it
is read as JSON or as YAML, it holds one scenario for each of them, cut as it
was shown and with its parts expected. The names may look like numbers, words,
escapes or anything else that YAML knows, as long as they are ASCII without the
delete character. -/
theorem shown_names_load_alike {text option : Text} (hOption : option ∈ formatOptions)
    {limit : Int} (hLimit : limitOfText? text = some limit) (hSign : 0 ≤ limit)
    {names : List Text} (hNames : names ≠ []) (hAscii : ∀ name ∈ names, ∀ c ∈ name, c.toNat ≤ 126)
    (before : FileTree) {tree : FileTree} {first second : Path}
    (hFirst : tree.content? first =
      some (Utf8.encode (runArguments before (parseLine option text names)).printed))
    (hSecond : tree.content? second =
      some (Utf8.encode (runArguments before (parseLine option text names)).printed)) :
    (runArguments before (parseLine option text names)).exit = .ok 0 ∧
    Scenario.load tree first = Scenario.load tree second ∧
    Scenario.load tree second = .ok (names.map fun name =>
      .ofTexts (Login.truncate limit name) (Login.parse (Login.truncate limit name))) := by
  have hShown := runArguments_parseLine hLimit hSign hOption hNames before
  rw [hShown] at hFirst hSecond ⊢
  have hRows : (rowsOf limit names).map Json.ofRow =
      (names.map (readName limit)).map fun entry => .ofRow (Login.row entry.1 entry.2) := by
    simp only [rowsOf, List.map_map]
    rfl
  have hCommon : ∀ case ∈ names.map (readName limit), ∀ pair ∈ Login.row case.1 case.2,
      Yaml.IsCommonPair pair := by
    rw [List.forall_mem_map]
    intro name hName
    apply Login.isCommonPair_row
    intro c hc
    exact Yaml.Quoted.isCommon_of_le
      (hAscii name hName c ((Login.truncate_isPrefix hSign name).subset hc))
  have hLoad : ∀ path, tree.content? path = some (Utf8.encode
      (Json.write .indented (.arr ((rowsOf limit names).map .ofRow)) ++ ['\n'])) →
      Scenario.load tree path = .ok (names.map fun name =>
        .ofTexts (Login.truncate limit name) (Login.parse (Login.truncate limit name))) := by
    intro path hPath
    rw [Scenario.load, FileTree.readFile_of_content? hPath]
    change Scenario.ofContent path _ = _
    cases hYaml : Scenario.isYaml path with
    | false =>
        rw [Scenario.ofContent_rows _ hYaml hRows (readable_rowsOf limit names), List.map_map]
        rfl
    | true =>
        rw [Scenario.ofContent_yaml_rows hYaml (by simpa using hNames) hCommon hRows
          (readable_rowsOf limit names), List.map_map]
        rfl
  exact ⟨rfl, (hLoad first hFirst).trans (hLoad second hSecond).symm, hLoad second hSecond⟩

/-- Three names, one of them cut, whose parts look like words, numbers and marks of YAML. -/
theorem three_names_load_alike :
    let names := ["null".toList, "\x00~.- y@0x1#".toList, []]
    let shown := (runArguments {} (parseLine "-f".toList ['9'] names)).printed
    let json := Path.ofText "cases.json".toList
    let yaml := Path.ofText "cases.yaml".toList
    let tree : FileTree :=
      { entries := [(json, .file (Utf8.encode shown)), (yaml, .file (Utf8.encode shown))] }
    Scenario.isYaml json = false ∧ Scenario.isYaml yaml = true ∧
    Scenario.load tree json = Scenario.load tree yaml ∧
    Scenario.load tree yaml = .ok [Scenario.ofLiterals "null" "null",
      Scenario.ofLiterals "\x00~.- y@0x" "\x00~" (some "- y") (some "0x"),
      Scenario.ofLiterals "" ""] := by
  intro names shown json yaml tree
  have hLimit : limitOfText? ['9'] = some 9 := limitOfText?_natural (n := 9) (by decide)
  have hAscii : names.all (fun name => name.all fun c => decide (c.toNat ≤ 126)) = true := by decide
  have hJson : tree.content? json = some (Utf8.encode shown) := rfl
  have hYaml : tree.content? yaml = some (Utf8.encode shown) := rfl
  obtain ⟨_, hAlike, hLoad⟩ := shown_names_load_alike (show "-f".toList ∈ formatOptions by decide)
    hLimit (by decide) (show names ≠ [] by decide)
    (by simpa only [List.all_eq_true, decide_eq_true_iff] using hAscii) {} hJson hYaml
  refine ⟨by decide +kernel, by decide +kernel, hAlike, hLoad.trans (congrArg Except.ok ?_)⟩
  decide +kernel

end Command

end PoolLogin
