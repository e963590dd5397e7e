import PoolLogin.Log
import PoolLogin.Proofs.FileTree.Settled

/-! Both kinds of logs are files that are revised: what is appended follows
the old content, and a header stands in front of a file that is new. -/

namespace PoolLogin.Log

open FileTree PoolLogin.Action

/-- The content of a file to which a text is added, under a header if the file is new. -/
def added (header text : Text) : Option Bytes → Bytes
  | none => Utf8.encode (header ++ text)
  | some content => content ++ Utf8.encode text

/-- The header and the text of one addition, written as one piece at the end of the file. -/
theorem added_eq (header text : Text) (before : Option Bytes) :
    added header text before =
      before.getD [] ++ Utf8.encode ((if before.isNone then header else []) ++ text) := by
  cases before <;> rfl

/-- Where no directory stands, nothing stands exactly if there is no file. -/
theorem isNone_node? {tree : FileTree} {path place : Path} (h : tree.place path = .ok place)
    (hPlace : tree.at? place ≠ some .directory) :
    (tree.node? path).isNone = (tree.fileAt? place).isNone := by
  rw [node?_of_place h]
  cases hNode : tree.at? place with
  | none => rw [fileAt?_of_none hNode]; rfl
  | some node =>
      cases node with
      | file content => rw [fileAt?_of_file hNode]; rfl
      | directory => exact absurd hNode hPlace

/-- Two ways to write a file are the same if they give every file the same content. -/
theorem run_update_congr {tree : FileTree} {path : Path} {f g : Bytes → Bytes}
    (h : ∀ place, tree.place path = .ok place → tree.at? place ≠ some .directory →
      f ((tree.fileAt? place).getD []) = g ((tree.fileAt? place).getD [])) :
    (update path f).run tree = (update path g).run tree := by
  cases hPlace : tree.place path with
  | error fault => simp only [run_update, hPlace]
  | ok place =>
      by_cases hDirectory : tree.at? place = some .directory
      · simp only [run_update, hPlace, hDirectory]
      · rw [run_update_of_place hPlace hDirectory, run_update_of_place hPlace hDirectory,
          h place hPlace hDirectory]

theorem run_appendCsv (path : Path) (row : List (Text × Cell)) (tree : FileTree) :
    (appendCsv path row).run tree =
      (revise path (added (headerText row) (recordText row))).run tree := by
  rw [appendCsv, revise, run_bind, run_bind]
  cases (makeDirectories path.parent).run tree with
  | mk result middle =>
      cases result with
      | error fault => rfl
      | ok _ =>
          simp only [run_bind, run_get, append]
          apply run_update_congr
          intro place hPlace hDirectory
          rw [added_eq, content?_of_place hPlace, isNone_node? hPlace hDirectory]

theorem run_appendJson (path : Path) (payload : Json) (tree : FileTree) :
    (appendJson path payload).run tree =
      (revise path (added [] (jsonLine payload))).run tree := by
  rw [appendJson, revise, run_bind, run_bind]
  cases (makeDirectories path.parent).run tree with
  | mk result middle =>
      cases result with
      | error fault => rfl
      | ok _ =>
          simp only [run_bind, run_get, append]
          apply run_update_congr
          intro place hPlace hDirectory
          rw [added_eq, content?_of_place hPlace, ite_self, List.nil_append]

/-! ### One addition after another -/

/-- What a log takes in one go. -/
structure Addition where
  /-- What stands in front of it in a file that is new. -/
  lead : Text
  text : Text

/-- Additions to the file at a path one after another, up to the first that fails. -/
def addAll (path : Path) (additions : List Addition) : Act Unit :=
  additions.forM fun addition => revise path (added addition.lead addition.text)

/-- The content of a file after additions. Without any of them it is the one before. -/
def grown (before : Option Bytes) (additions : List Addition) : Option Bytes :=
  additions.foldl (fun content addition => some (added addition.lead addition.text content)) before

theorem grown_cons (before : Option Bytes) (addition : Addition) (additions : List Addition) :
    grown before (addition :: additions) =
      grown (some (added addition.lead addition.text before)) additions := rfl

/-- A file that is there takes nothing but the texts of what is added. -/
theorem grown_some (content : Bytes) (additions : List Addition) :
    grown (some content) additions =
      some (content ++ Utf8.encode (additions.flatMap Addition.text)) := by
  induction additions generalizing content with
  | nil => simp [grown]
  | cons addition additions ih =>
      rw [grown_cons, ih, added, List.flatMap_cons, Utf8.encode_append, List.append_assoc]

/-- What stands in front of the first addition stands in front of a new file. -/
theorem grown_none (addition : Addition) (additions : List Addition) :
    grown none (addition :: additions) = some (Utf8.encode (addition.lead ++
      (addition :: additions).flatMap Addition.text)) := by
  rw [grown_cons, grown_some, added, List.flatMap_cons, ← Utf8.encode_append, List.append_assoc]

theorem addAll_cons (path : Path) (addition : Addition) (additions : List Addition)
    (tree : FileTree) :
    (addAll path (addition :: additions)).run tree =
      match (revise path (added addition.lead addition.text)).run tree with
      | (.ok _, after) => (addAll path additions).run after
      | (.error fault, after) => (.error fault, after) := by
  rw [addAll, List.forM, run_bind]
  cases (revise path (added addition.lead addition.text)).run tree with
  | mk result after => cases result <;> rfl

/-- A place where no directory stands takes any number of additions, if a path leads there. -/
theorem run_addAll_of_place {path place : Path} (additions : List Addition) {tree : FileTree}
    (h : tree.place path = .ok place) (hPlace : tree.at? place ≠ some .directory) :
    ∃ after, (addAll path additions).run tree = (.ok (), after) ∧
      AgreesOff (some place) tree after ∧ after.place path = .ok place ∧
      after.fileAt? place = grown (tree.fileAt? place) additions := by
  induction additions generalizing tree with
  | nil => exact ⟨tree, rfl, AgreesOff.refl _ tree, h, rfl⟩
  | cons addition additions ih =>
      obtain ⟨hPut, hFile⟩ := at?_put_self
        (added addition.lead addition.text (tree.fileAt? place)) h hPlace
      obtain ⟨after, hRun, hAgrees, hLeads, hContent⟩ := ih hPut (by simp [hFile])
      refine ⟨after, ?_, (AgreesOff.put h hPlace).trans hAgrees, hLeads, ?_⟩
      · rw [addAll_cons, run_revise_of_place h hPlace]
        exact hRun
      · rw [hContent, fileAt?_of_file hFile, grown_cons]

/-- Only the first addition can fail, and then no file changes. Otherwise all
of them go to one place, to which the path leads once the directories above
it have been made. -/
theorem addAll_cases (path : Path) (addition : Addition) (additions : List Addition)
    (tree : FileTree) :
    (∃ fault after, (addAll path (addition :: additions)).run tree = (.error fault, after) ∧
      (∀ f, ∃ fault after, (revise path f).run tree = (.error fault, after)) ∧
      AgreesOff none tree after) ∨
    ∃ middle place after, AgreesOff none tree middle ∧ middle.place path = .ok place ∧
      (addAll path (addition :: additions)).run tree = (.ok (), after) ∧
      AgreesOff (some place) middle after ∧ after.place path = .ok place ∧
      after.fileAt? place = grown (middle.fileAt? place) (addition :: additions) := by
  rcases revise_reaches path tree with ⟨fault, after, hAgrees, hRun⟩ |
    ⟨middle, place, hAgrees, hPlace, hDirectory, hRun⟩
  · exact Or.inl ⟨fault, after, by rw [addAll_cons, hRun], fun f => ⟨fault, after, hRun f⟩, hAgrees⟩
  · obtain ⟨after, hAll, hOff, hLeads, hContent⟩ :=
      run_addAll_of_place (addition :: additions) hPlace hDirectory
    refine Or.inr ⟨middle, place, after, hAgrees, hPlace, ?_, hOff, hLeads, hContent⟩
    rw [addAll_cons] at hAll ⊢
    rwa [hRun]

/-- Where a file can be written, it takes whatever is added. -/
theorem run_addAll_of_writable {path : Path} {tree : FileTree} (h : tree.Writable path)
    (additions : List Addition) : ∃ after, (addAll path additions).run tree = (.ok (), after) := by
  cases additions with
  | nil => exact ⟨tree, rfl⟩
  | cons addition additions =>
      rcases addAll_cases path addition additions tree with ⟨_, _, _, hFail, _⟩ |
        ⟨_, _, after, _, _, hRun, _⟩
      · obtain ⟨fault, failed, hFail⟩ := hFail (added [] [])
        obtain ⟨after, hOk⟩ := (run_revise_iff (added [] [])).mpr h
        rw [hFail] at hOk
        cases hOk
      · exact ⟨after, hRun⟩

/-- Additions go through just where a file can be written. -/
theorem run_addAll_iff {path : Path} {tree : FileTree} {additions : List Addition}
    (hSome : additions ≠ []) :
    (∃ after, (addAll path additions).run tree = (.ok (), after)) ↔ tree.Writable path := by
  refine ⟨fun ⟨after, hRun⟩ => ?_, fun h => run_addAll_of_writable h additions⟩
  obtain ⟨addition, additions, rfl⟩ := List.exists_cons_of_ne_nil hSome
  rw [addAll_cons] at hRun
  cases hFirst : (revise path (added addition.lead addition.text)).run tree with
  | mk result middle =>
      cases result with
      | error fault =>
          rw [hFirst] at hRun
          cases hRun
      | ok _ => exact (run_revise_iff _).mp ⟨middle, hFirst⟩

/-- Additions follow what is found at a path once the directories above it have been made. -/
theorem exists_grown_of_addAll {path : Path} {tree after : FileTree} {addition : Addition}
    {additions : List Addition}
    (hRun : (addAll path (addition :: additions)).run tree = (.ok (), after)) :
    ∃ middle, AgreesOff none tree middle ∧
      after.content? path = grown (middle.content? path) (addition :: additions) := by
  rcases addAll_cases path addition additions tree with ⟨_, _, hFail, _⟩ |
    ⟨middle, place, _, hAgrees, hPlace, hOk, _, hLeads, hContent⟩
  · rw [hFail] at hRun
    cases hRun
  · rw [hOk] at hRun
    cases hRun
    exact ⟨middle, hAgrees, by rw [content?_of_place hLeads, hContent, content?_of_place hPlace]⟩

/-- What is found at a settled path after additions is the file before with these additions. -/
theorem content?_of_addAll {path : Path} {tree after : FileTree} (h : tree.Settled path)
    {additions : List Addition} (hRun : (addAll path additions).run tree = (.ok (), after)) :
    after.content? path = grown (tree.content? path) additions := by
  cases additions with
  | nil =>
      cases hRun
      rfl
  | cons addition additions =>
      obtain ⟨middle, hAgrees, hContent⟩ := exists_grown_of_addAll hRun
      rw [hContent, h middle hAgrees]

end PoolLogin.Log
