import PoolLogin.Proofs.Action
import PoolLogin.Proofs.FileTree.Place
import PoolLogin.Proofs.Text.Join

/-! Making directories. No file changes by it and no directory goes away,
whether it succeeds or not; and where all directories are there already,
nothing happens at all. -/

namespace PoolLogin.FileTree

open PoolLogin.Action

variable {tree before middle after : FileTree} {path place : Path} {target : Option Path}

/-- Two trees hold the same files, except perhaps at one place, and the
second has all directories of the first. -/
structure AgreesOff (target : Option Path) (before after : FileTree) : Prop where
  files : ∀ place, some place ≠ target → after.fileAt? place = before.fileAt? place
  directories : ∀ place, before.at? place = some .directory → after.at? place = some .directory

namespace AgreesOff

theorem refl (target : Option Path) (tree : FileTree) : AgreesOff target tree tree :=
  ⟨fun _ _ => rfl, fun _ h => h⟩

theorem trans (first : AgreesOff target before middle) (second : AgreesOff target middle after) :
    AgreesOff target before after := by
  constructor
  · intro place hPlace
    rw [second.files place hPlace, first.files place hPlace]
  · intro place hDirectory
    exact second.directories place (first.directories place hDirectory)

/-- Where no file changes, none changes off a place. -/
theorem weaken (h : AgreesOff none before after) (target : Option Path) :
    AgreesOff target before after :=
  ⟨fun place _ => h.files place (by simp), h.directories⟩

/-- Where the file off which trees agree is the same as well, no file changes. -/
theorem strengthen (h : AgreesOff (some place) before after)
    (hPlace : after.fileAt? place = before.fileAt? place) : AgreesOff none before after := by
  refine ⟨fun other _ => ?_, h.directories⟩
  by_cases hOther : other = place
  · rw [hOther, hPlace]
  · exact h.files other (by simpa using hOther)

/-- A tree changes at most where a path leads when a file is put there. -/
theorem put {content : Bytes} (h : tree.place path = .ok place)
    (hPlace : tree.at? place ≠ some .directory) :
    AgreesOff (some place) tree (tree.put path (.file content)) := by
  constructor
  · intro other hOther
    have hNe : other ≠ place := by simpa using hOther
    rw [fileAt?, fileAt?, at?_put h hPlace, if_neg hNe]
  · intro other hDirectory
    have hNe : other ≠ place := by
      rintro rfl
      exact hPlace hDirectory
    rw [at?_put h hPlace, if_neg hNe, hDirectory]

/-- Taking a file away changes the tree at most where it was. -/
theorem drop (h : tree.place path = .ok place) (hPlace : tree.at? place ≠ some .directory) :
    AgreesOff (some place) tree (tree.drop path) := by
  constructor
  · intro other hOther
    have hNe : other ≠ place := by simpa using hOther
    rw [fileAt?, fileAt?, at?_drop h hPlace, if_neg hNe]
  · intro other hDirectory
    have hNe : other ≠ place := by
      rintro rfl
      exact hPlace hDirectory
    rw [at?_drop h hPlace, if_neg hNe, hDirectory]

/-- A directory that is made where nothing stands changes no file. -/
theorem put_directory (h : tree.place path = .ok place) (hPlace : tree.at? place = none) :
    AgreesOff none tree (tree.put path .directory) := by
  have hNoDirectory : tree.at? place ≠ some .directory := by simp [hPlace]
  constructor
  · intro other _
    by_cases hOther : other = place
    · rw [hOther, fileAt?_of_none hPlace, fileAt?, at?_put h hNoDirectory, if_pos rfl]
    · rw [fileAt?, fileAt?, at?_put h hNoDirectory, if_neg hOther]
  · intro other hDirectory
    have hNe : other ≠ place := by
      rintro rfl
      exact hNoDirectory hDirectory
    rw [at?_put h hNoDirectory, if_neg hNe, hDirectory]

end AgreesOff

/-! ### Actions that change no file -/

theorem run_placeOf (path : Path) (tree : FileTree) :
    (placeOf path).run tree = (tree.place path, tree) := by
  rw [placeOf, run_bind, run_get]
  exact run_ofExcept _ _

theorem run_makeDirectory (path : Path) (tree : FileTree) :
    (makeDirectory path).run tree = match tree.place path with
      | .error fault => (.error fault, tree)
      | .ok place => match tree.at? place with
        | some _ => (.error (.alreadyThere path), tree)
        | none => (.ok (), tree.put path .directory) := by
  rw [makeDirectory, run_bind, run_placeOf]
  cases tree.place path with
  | error fault => rfl
  | ok place =>
      simp only [run_bind, run_get]
      cases tree.at? place <;> rfl

theorem run_ensureDirectory (path : Path) (tree : FileTree) :
    (ensureDirectory path).run tree = match (makeDirectory path).run tree with
      | (.ok (), t) => (.ok (), t)
      | (.error fault, t) => if t.isDirectory path then (.ok (), t) else (.error fault, t) := by
  rw [ensureDirectory, run_tryCatch]
  cases (makeDirectory path).run tree with
  | mk result t =>
      cases result with
      | ok _ => rfl
      | error fault =>
          simp only [run_bind, run_get]
          split_ifs <;> rfl

/-- An action that changes no file and leaves all directories in place. -/
def KeepsFiles (action : Act Unit) : Prop := ∀ tree, AgreesOff none tree (action.run tree).2

theorem keepsFiles_makeDirectory (path : Path) : KeepsFiles (makeDirectory path) := by
  intro tree
  rw [run_makeDirectory]
  cases hPlace : tree.place path with
  | error fault => exact AgreesOff.refl none tree
  | ok place =>
      cases hNode : tree.at? place with
      | some node =>
          simp only [hNode]
          exact AgreesOff.refl none tree
      | none =>
          simp only [hNode]
          exact AgreesOff.put_directory hPlace hNode

theorem KeepsFiles.bind {first second : Act Unit} (hFirst : KeepsFiles first)
    (hSecond : KeepsFiles second) : KeepsFiles (first >>= fun _ => second) := by
  intro tree
  have h := hFirst tree
  rw [run_bind]
  cases hRun : first.run tree with
  | mk result t =>
      rw [hRun] at h
      cases result with
      | error fault => exact h
      | ok _ => exact h.trans (hSecond t)

theorem KeepsFiles.tryCatch {action : Act Unit} {handler : Fault → Act Unit}
    (hAction : KeepsFiles action) (hHandler : ∀ fault, KeepsFiles (handler fault)) :
    KeepsFiles (tryCatch action handler) := by
  intro tree
  have h := hAction tree
  rw [run_tryCatch]
  cases hRun : action.run tree with
  | mk result t =>
      rw [hRun] at h
      cases result with
      | error fault => exact h.trans (hHandler fault t)
      | ok _ => exact h

theorem keepsFiles_ensureDirectory (path : Path) : KeepsFiles (ensureDirectory path) := by
  intro tree
  have h := keepsFiles_makeDirectory path tree
  rw [run_ensureDirectory]
  cases hRun : (makeDirectory path).run tree with
  | mk result t =>
      rw [hRun] at h
      cases result with
      | ok _ => exact h
      | error fault =>
          simp only
          split_ifs <;> exact h

theorem keepsFiles_makeDirectoriesFrom (root : Text) (upwards : List Text) :
    KeepsFiles (makeDirectoriesFrom root upwards) := by
  induction upwards with
  | nil => exact keepsFiles_ensureDirectory _
  | cons name upwards ih =>
      rw [makeDirectoriesFrom]
      refine (keepsFiles_ensureDirectory _).tryCatch ?_
      intro fault
      split
      · exact ih.bind (keepsFiles_ensureDirectory _)
      · intro tree
        exact AgreesOff.refl none tree

theorem keepsFiles_makeDirectories (path : Path) : KeepsFiles (makeDirectories path) :=
  keepsFiles_makeDirectoriesFrom path.root path.names.reverse

/-! ### Directories that are there -/

theorem run_makeDirectories_of_isDirectory (h : tree.isDirectory path) :
    (makeDirectories path).run tree = (.ok (), tree) := by
  have hEnsure : (ensureDirectory path).run tree = (.ok (), tree) := by
    have hNode : tree.node? path = some .directory := by simpa [isDirectory] using h
    rw [run_ensureDirectory, run_makeDirectory]
    cases hPlace : tree.place path with
    | error fault => simp [node?, hPlace] at hNode
    | ok place =>
        rw [node?_of_place hPlace] at hNode
        simp [hNode, h]
  obtain ⟨root, names⟩ := path
  rw [makeDirectories]
  cases hNames : names.reverse with
  | nil =>
      obtain rfl : names = [] := List.reverse_eq_nil_iff.mp hNames
      exact hEnsure
  | cons name upwards =>
      have hPath : names = (name :: upwards).reverse := by rw [← hNames, List.reverse_reverse]
      rw [hPath] at hEnsure
      simp only [makeDirectoriesFrom, run_tryCatch, hEnsure]

theorem walk_append (tree : FileTree) (start : Path) (first second : List Text) :
    tree.walk start (first ++ second) =
      (tree.walk start first).bind fun place => tree.walk place second := by
  induction first generalizing start with
  | nil => rfl
  | cons name first ih =>
      rw [List.cons_append, walk, walk]
      cases tree.at? start with
      | none => rfl
      | some node =>
          cases node with
          | file content => rfl
          | directory =>
              simp only
              split_ifs
              · exact ih _
              · rfl
              · exact ih _

/-- The text of a parent is a start of that of its child, or the dot. -/
theorem parent_toText (path : Path) :
    path.parent.toText = ['.'] ∨ path.parent.toText <+: path.toText := by
  rw [Path.toText, Path.toText]
  split_ifs with hParent hChild hChild
  · exact Or.inl rfl
  · exact Or.inl rfl
  · rw [Bool.and_eq_true, List.isEmpty_iff, List.isEmpty_iff] at hChild
    rw [Bool.and_eq_true, List.isEmpty_iff, List.isEmpty_iff] at hParent
    refine absurd ⟨hChild.1, ?_⟩ hParent
    rw [Path.parent, hChild.2]
    rfl
  · exact Or.inr ((List.prefix_append_right_inj path.root).mpr
      (Text.joinWith_dropLast_isPrefix ['/'] path.names))

theorem Allowed.parent (h : Allowed path) : Allowed path.parent := by
  rcases parent_toText path with hDot | hPrefix
  · constructor <;> rw [hDot] <;> decide
  · constructor
    · exact fun hMem => h.noNul (hPrefix.subset hMem)
    · exact Nat.le_trans (Utf8.encode_isPrefix hPrefix).length_le h.short

/-- The names of a path lead over the directory in which the last of them is looked for. -/
theorem walk_dropLast {start : Path} {names : List Text} (hNames : names ≠ [])
    (h : tree.walk start names = .ok place) :
    ∃ parent, tree.walk start names.dropLast = .ok parent ∧
      tree.at? parent = some .directory := by
  rw [← List.dropLast_concat_getLast hNames, walk_append] at h
  cases hWalk : tree.walk start names.dropLast with
  | error obstacle =>
      rw [hWalk] at h
      cases h
  | ok parent =>
      rw [hWalk] at h
      refine ⟨parent, rfl, ?_⟩
      simp only [Except.bind, walk] at h
      split at h
      · cases h
      · cases h
      · assumption

/-- A path that leads somewhere leads there from a directory. -/
theorem exists_parent (h : tree.place path = .ok place) :
    ∃ parent, tree.place path.parent = .ok parent ∧ tree.at? parent = some .directory := by
  obtain ⟨hAllowed, hWalk⟩ := place_eq_ok.mp h
  by_cases hNames : path.names = []
  · refine ⟨{ path with names := [] }, place_eq_ok.mpr ⟨hAllowed.parent, ?_⟩, rfl⟩
    rw [Path.parent, hNames]
    rfl
  · obtain ⟨parent, hUp, hDirectory⟩ := walk_dropLast hNames hWalk
    exact ⟨parent, place_eq_ok.mpr ⟨hAllowed.parent, hUp⟩, hDirectory⟩

/-- A path that leads somewhere lies in a directory. -/
theorem isDirectory_parent (h : tree.place path = .ok place) : tree.isDirectory path.parent := by
  obtain ⟨parent, hParent, hDirectory⟩ := exists_parent h
  rw [isDirectory, node?_of_place hParent, hDirectory]
  rfl

end PoolLogin.FileTree
