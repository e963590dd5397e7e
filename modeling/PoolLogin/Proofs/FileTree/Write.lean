import PoolLogin.Proofs.FileTree.Directory

/-! Writing and removing files. Whatever can go wrong goes wrong before the
file is touched, so a failure leaves every content as it was. -/

namespace PoolLogin.FileTree

open PoolLogin.Action

variable {tree : FileTree} {path place : Path}

/-! ### Contents after a change -/

/-- A file can be put anew where a path leads, and is found there. -/
theorem at?_put_self (content : Bytes) (h : tree.place path = .ok place)
    (hPlace : tree.at? place ≠ some .directory) :
    (tree.put path (.file content)).place path = .ok place ∧
      (tree.put path (.file content)).at? place = some (.file content) := by
  refine ⟨place_mono (AgreesOff.put h hPlace).directories h, ?_⟩
  rw [at?_put h hPlace, if_pos rfl]

/-- The way to a file stays open after it is gone. -/
theorem at?_drop_self (h : tree.place path = .ok place)
    (hPlace : tree.at? place ≠ some .directory) :
    (tree.drop path).place path = .ok place ∧ (tree.drop path).at? place = none := by
  refine ⟨place_mono (AgreesOff.drop h hPlace).directories h, ?_⟩
  rw [at?_drop h hPlace, if_pos rfl]

/-! ### Single actions -/

theorem run_update (path : Path) (f : Bytes → Bytes) (tree : FileTree) :
    (update path f).run tree = match tree.place path with
      | .error fault => (.error fault, tree)
      | .ok place => match tree.at? place with
        | some (.file content) => (.ok (), tree.put path (.file (f content)))
        | some .directory => (.error (.isDirectory path), tree)
        | none => (.ok (), tree.put path (.file (f []))) := by
  rw [update, run_bind, run_placeOf]
  cases tree.place path with
  | error fault => rfl
  | ok place =>
      simp only [run_bind, run_get]
      cases tree.at? place with
      | none => rfl
      | some node => cases node <;> rfl

theorem run_update_of_place {f : Bytes → Bytes} (h : tree.place path = .ok place)
    (hPlace : tree.at? place ≠ some .directory) :
    (update path f).run tree =
      (.ok (), tree.put path (.file (f ((tree.fileAt? place).getD [])))) := by
  rw [run_update, h]
  simp only
  cases hNode : tree.at? place with
  | none => rw [fileAt?_of_none hNode]; rfl
  | some node =>
      cases node with
      | file content => rw [fileAt?_of_file hNode]; rfl
      | directory => exact absurd hNode hPlace

theorem readFile_eq (tree : FileTree) (path : Path) :
    tree.readFile path = match tree.place path with
      | .error fault => .error fault
      | .ok place => match tree.at? place with
        | some (.file content) => .ok content
        | some .directory => .error (.isDirectory path)
        | none => .error (.missing path) := by
  rw [readFile]
  cases tree.place path <;> rfl

theorem run_remove (path : Path) (tree : FileTree) :
    (remove path).run tree = match tree.readFile path with
      | .ok _ => (.ok (), tree.drop path)
      | .error (.missing _) => (.ok (), tree)
      | .error fault => (.error fault, tree) := by
  simp only [remove, run_bind, run_get]
  cases tree.readFile path with
  | ok content => rfl
  | error fault => cases fault <;> rfl

/-- A file is removed, or there is none to remove, or nothing is done at all. -/
theorem remove_cases (path : Path) (tree : FileTree) :
    (∃ place content, tree.place path = .ok place ∧ tree.at? place = some (.file content) ∧
      (remove path).run tree = (.ok (), tree.drop path)) ∨
    (tree.content? path = none ∧ (remove path).run tree = (.ok (), tree)) ∨
    ∃ fault, (remove path).run tree = (.error fault, tree) := by
  rw [run_remove, readFile_eq]
  cases hPlace : tree.place path with
  | error fault =>
      have hContent : tree.content? path = none := by rw [content?, node?, hPlace]
      cases fault with
      | missing p => exact Or.inr (Or.inl ⟨hContent, rfl⟩)
      | alreadyThere p => exact Or.inr (Or.inr ⟨_, rfl⟩)
      | notDirectory p => exact Or.inr (Or.inr ⟨_, rfl⟩)
      | isDirectory p => exact Or.inr (Or.inr ⟨_, rfl⟩)
      | nameTooLong p => exact Or.inr (Or.inr ⟨_, rfl⟩)
      | nulCharacter => exact Or.inr (Or.inr ⟨_, rfl⟩)
  | ok place =>
      simp only
      cases hNode : tree.at? place with
      | none =>
          have hContent : tree.content? path = none := by
            rw [content?_of_place hPlace, fileAt?_of_none hNode]
          exact Or.inr (Or.inl ⟨hContent, rfl⟩)
      | some node =>
          cases node with
          | file content => exact Or.inl ⟨place, content, rfl, hNode, rfl⟩
          | directory => exact Or.inr (Or.inr ⟨_, rfl⟩)

/-! ### Revising a file -/

/-- Give a file a content that depends on the one before, if there was one.
Missing directories above it are made first. -/
def revise (path : Path) (f : Option Bytes → Bytes) : Act Unit := do
  makeDirectories path.parent
  let before := (← get).content? path
  update path fun _ => f before

/-- A file whose directory is there is always revised. -/
theorem run_revise_of_place {f : Option Bytes → Bytes} (h : tree.place path = .ok place)
    (hPlace : tree.at? place ≠ some .directory) :
    (revise path f).run tree = (.ok (), tree.put path (.file (f (tree.fileAt? place)))) := by
  rw [revise, run_bind, run_makeDirectories_of_isDirectory (isDirectory_parent h)]
  simp only [run_bind, run_get, content?_of_place h]
  exact run_update_of_place h hPlace

/-- Making the directories above a path does not hang on what is to be written
there. Either it cannot be written at all, or there is a tree with the same
files in which the path leads to a place for a file, and from that tree it is
revised in the same way. -/
theorem revise_reaches (path : Path) (tree : FileTree) :
    (∃ fault after, AgreesOff none tree after ∧
      ∀ f, (revise path f).run tree = (.error fault, after)) ∨
    ∃ middle place, AgreesOff none tree middle ∧ middle.place path = .ok place ∧
      middle.at? place ≠ some .directory ∧
      ∀ f, (revise path f).run tree = (revise path f).run middle := by
  have hKeeps := keepsFiles_makeDirectories path.parent tree
  cases hRun : (makeDirectories path.parent).run tree with
  | mk result middle =>
      rw [hRun] at hKeeps
      cases result with
      | error fault =>
          refine Or.inl ⟨fault, middle, hKeeps, fun f => ?_⟩
          rw [revise, run_bind, hRun]
      | ok _ =>
          cases hPlace : middle.place path with
          | error fault =>
              refine Or.inl ⟨fault, middle, hKeeps, fun f => ?_⟩
              simp only [revise, run_bind, hRun, run_get]
              rw [run_update, hPlace]
          | ok place =>
              by_cases hDirectory : middle.at? place = some .directory
              · refine Or.inl ⟨.isDirectory path, middle, hKeeps, fun f => ?_⟩
                simp only [revise, run_bind, hRun, run_get]
                rw [run_update, hPlace]
                simp only [hDirectory]
              · refine Or.inr ⟨middle, place, hKeeps, hPlace, hDirectory, fun f => ?_⟩
                have hAgain := run_makeDirectories_of_isDirectory (isDirectory_parent hPlace)
                rw [revise, run_bind, run_bind, hRun, hAgain]

/-- A file on a path without ways up is either revised, with nothing else
changed, or no file changes at all. -/
theorem revise_cases {f : Option Bytes → Bytes} (hPath : Path.upward ∉ path.names)
    (tree : FileTree) :
    (∃ fault after, (revise path f).run tree = (.error fault, after) ∧
      AgreesOff none tree after) ∨
    ∃ after, (revise path f).run tree = (.ok (), after) ∧ AgreesOff (some path) tree after ∧
      after.place path = .ok path ∧ after.at? path = some (.file (f (tree.fileAt? path))) := by
  rcases revise_reaches path tree with ⟨fault, after, hAgrees, hRun⟩ |
    ⟨middle, place, hAgrees, hPlace, hDirectory, hRun⟩
  · exact Or.inl ⟨fault, after, hRun f, hAgrees⟩
  · obtain rfl : place = path := place_eq_self hPath hPlace
    have hFile : middle.fileAt? place = tree.fileAt? place := hAgrees.files place (by simp)
    refine Or.inr ⟨middle.put place (.file (f (tree.fileAt? place))), ?_,
      (hAgrees.weaken _).trans (AgreesOff.put hPlace hDirectory),
      at?_put_self _ hPlace hDirectory⟩
    rw [hRun, run_revise_of_place hPlace hDirectory, hFile]

/-- A file that has been given a content holds it, wherever its path leads. -/
theorem content?_of_revise {content : Bytes} {after : FileTree}
    (h : (revise path fun _ => content).run tree = (.ok (), after)) :
    after.content? path = some content := by
  rcases revise_reaches path tree with ⟨fault, later, _, hRun⟩ |
    ⟨middle, place, _, hPlace, hDirectory, hRun⟩
  · rw [hRun] at h
    cases h
  · rw [hRun, run_revise_of_place hPlace hDirectory] at h
    cases h
    obtain ⟨hReached, hFile⟩ := at?_put_self content hPlace hDirectory
    rw [content?_of_place hReached, fileAt?_of_file hFile]

end PoolLogin.FileTree
