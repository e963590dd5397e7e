import PoolLogin.Proofs.FileTree.Write

/-! Where a file can be written. Directories above it may be missing, as they
are made on the way; but no file may stand in the way of one. A path that
leads to a place for a file once some directories are there is followed far
enough to make just the missing ones among them. -/

namespace PoolLogin.FileTree

open PoolLogin.Action

variable {tree middle more : FileTree} {path place : Path}

/-- A path at which a file can be written: with more directories, if some are
missing, it leads to a place where no directory stands. It may go up again
from a directory that is missing. -/
def Writable (tree : FileTree) (path : Path) : Prop :=
  ∃ more place, AgreesOff none tree more ∧ more.place path = .ok place ∧
    more.at? place ≠ some .directory

theorem Writable.allowed (h : tree.Writable path) : Allowed path := by
  obtain ⟨_, _, _, hPlace, _⟩ := h
  exact (place_eq_ok.mp hPlace).1

/-- A path that leads to a place without a directory can be written. -/
theorem writable_of_place (hPlace : tree.place path = .ok place)
    (hNoDirectory : tree.at? place ≠ some .directory) : tree.Writable path :=
  ⟨tree, place, AgreesOff.refl none tree, hPlace, hNoDirectory⟩

/-- A file that is there can be written again. -/
theorem writable_of_content? {content : Bytes} (h : tree.content? path = some content) :
    tree.Writable path := by
  obtain ⟨place, hPlace, hNode⟩ := place_of_content? h
  exact writable_of_place hPlace (by simp [hNode])

/-! ### Ways through missing directories -/

/-- A way that more directories open can only end too early without them. -/
theorem walk_of_agrees (h : AgreesOff none tree more) {start : Path} {names : List Text}
    (hMore : more.walk start names = .ok place) :
    tree.walk start names = .ok place ∨ tree.walk start names = .error .missing := by
  induction names generalizing start with
  | nil => exact Or.inl hMore
  | cons name names ih =>
      rw [walk] at hMore ⊢
      split at hMore
      · cases hMore
      · cases hMore
      · next hDirectory =>
          have hNoFile : tree.fileAt? start = none := by
            rw [← h.files start (by simp), fileAt?, hDirectory]
          cases hNode : tree.at? start with
          | none => exact Or.inr rfl
          | some node =>
              cases node with
              | file content =>
                  rw [fileAt?_of_file hNode] at hNoFile
                  cases hNoFile
              | directory =>
                  simp only
                  split_ifs at hMore ⊢
                  · exact ih hMore
                  · exact ih hMore

theorem place_of_agrees (h : AgreesOff none tree more) (hMore : more.place path = .ok place) :
    tree.place path = .ok place ∨ tree.place path = .error (.missing path) := by
  obtain ⟨hAllowed, hWalk⟩ := place_eq_ok.mp hMore
  rw [place_of_allowed hAllowed]
  rcases walk_of_agrees h hWalk with hOk | hMissing
  · exact Or.inl (by rw [hOk]; rfl)
  · exact Or.inr (by rw [hMissing]; rfl)

/-- The last name of a path is never missing where the directory is there. -/
theorem place_of_agrees_of_parent (h : AgreesOff none tree more)
    (hMore : more.place path = .ok place) (hNames : path.names ≠ []) {parent : Path}
    (hParent : tree.place path.parent = .ok parent)
    (hDirectory : tree.at? parent = some .directory) : tree.place path = .ok place := by
  refine (place_of_agrees h hMore).resolve_right fun hMissing => ?_
  have hWalk : tree.walk { path with names := [] } path.names.dropLast = .ok parent :=
    (place_eq_ok.mp hParent).2
  rw [place_of_allowed (place_eq_ok.mp hMore).1, ← List.dropLast_concat_getLast hNames, walk_append,
    hWalk] at hMissing
  simp only [Except.bind, walk, hDirectory] at hMissing
  split_ifs at hMissing <;> cases hMissing

/-! ### Making directories -/

/-- Directories have been made down to a place, and none that stands in no
tree that one has in mind. -/
structure Made (path place : Path) (before after more : FileTree) : Prop where
  kept : AgreesOff none before after
  within : AgreesOff none after more
  leads : after.place path = .ok place
  directory : after.at? place = some .directory

theorem run_ensureDirectory_of_place (h : AgreesOff none tree more)
    (hPlace : tree.place path = .ok place) (hDirectory : more.at? place = some .directory) :
    ∃ after, (ensureDirectory path).run tree = (.ok (), after) ∧
      Made path place tree after more := by
  rw [run_ensureDirectory, run_makeDirectory, hPlace]
  simp only
  cases hNode : tree.at? place with
  | none =>
      have hNoDirectory : tree.at? place ≠ some .directory := by simp [hNode]
      have hKept := AgreesOff.put_directory hPlace hNode
      refine ⟨_, rfl, hKept, ⟨fun other hOther => ?_, fun other hOther => ?_⟩,
        place_mono hKept.directories hPlace, ?_⟩
      · rw [h.files other hOther, hKept.files other hOther]
      · rw [at?_put hPlace hNoDirectory] at hOther
        split_ifs at hOther with hSame
        · rw [hSame, hDirectory]
        · exact h.directories other hOther
      · rw [at?_put hPlace hNoDirectory, if_pos rfl]
  | some node =>
      cases node with
      | file content =>
          have hFile := h.files place (by simp)
          rw [fileAt?_of_file hNode, fileAt?, hDirectory] at hFile
          cases hFile
      | directory =>
          have hThere : tree.isDirectory path := by
            rw [isDirectory, node?_of_place hPlace, hNode]
            rfl
          refine ⟨tree, ?_, AgreesOff.refl none tree, h, hPlace, hNode⟩
          simp only
          rw [if_pos hThere]

theorem run_ensureDirectory_of_missing (hPlace : tree.place path = .error (.missing path)) :
    (ensureDirectory path).run tree = (.error (.missing path), tree) := by
  have hDirectory : tree.isDirectory path = false := by
    rw [isDirectory, node?, hPlace]
    rfl
  rw [run_ensureDirectory, run_makeDirectory, hPlace]
  simp only
  rw [hDirectory, if_neg Bool.false_ne_true]

theorem run_makeDirectoriesFrom_of_agrees (root : Text) (upwards : List Text)
    (h : AgreesOff none tree more)
    (hMore : more.place { root, names := upwards.reverse } = .ok place)
    (hDirectory : more.at? place = some .directory) :
    ∃ after, (makeDirectoriesFrom root upwards).run tree = (.ok (), after) ∧
      Made { root, names := upwards.reverse } place tree after more := by
  induction upwards generalizing place with
  | nil =>
      obtain ⟨hAllowed, hWalk⟩ := place_eq_ok.mp hMore
      exact run_ensureDirectory_of_place h (place_eq_ok.mpr ⟨hAllowed, hWalk⟩) hDirectory
  | cons name upwards ih =>
      have hParent : Path.parent { root, names := (name :: upwards).reverse } =
          { root, names := upwards.reverse } := by
        simp [Path.parent]
      rw [makeDirectoriesFrom, run_tryCatch]
      rcases place_of_agrees h hMore with hPlace | hMissing
      · obtain ⟨after, hRun, hMade⟩ := run_ensureDirectory_of_place h hPlace hDirectory
        exact ⟨after, by rw [hRun], hMade⟩
      · -- The directory above is there in the greater tree, so it can be made first.
        obtain ⟨parent, hLeads, hThere⟩ := exists_parent hMore
        rw [hParent] at hLeads
        obtain ⟨middle, hRun, hMade⟩ := ih hLeads hThere
        have hPlace : middle.place { root, names := (name :: upwards).reverse } = .ok place := by
          apply place_of_agrees_of_parent hMade.within hMore (by simp)
          · rw [hParent, hMade.leads]
          · exact hMade.directory
        obtain ⟨after, hEnsure, hLast⟩ :=
          run_ensureDirectory_of_place hMade.within hPlace hDirectory
        refine ⟨after, ?_, hMade.kept.trans hLast.kept, hLast.within, hLast.leads, hLast.directory⟩
        rw [run_ensureDirectory_of_missing hMissing]
        simp only [run_bind, hRun]
        exact hEnsure

/-- Directories are made down to a place, if more of them could lead there. -/
theorem run_makeDirectories_of_agrees (h : AgreesOff none tree more)
    (hMore : more.place path = .ok place) (hDirectory : more.at? place = some .directory) :
    ∃ after, (makeDirectories path).run tree = (.ok (), after) ∧
      Made path place tree after more := by
  obtain ⟨root, names⟩ := path
  have hNames : names.reverse.reverse = names := List.reverse_reverse names
  have hMade := run_makeDirectoriesFrom_of_agrees root names.reverse h (by rwa [hNames]) hDirectory
  rwa [hNames] at hMade

/-! ### Writing -/

/-- A file can be given a content just where it can be written. -/
theorem run_revise_iff (f : Option Bytes → Bytes) :
    (∃ after, (revise path f).run tree = (.ok (), after)) ↔ tree.Writable path := by
  constructor
  · rintro ⟨after, hRun⟩
    rcases revise_reaches path tree with ⟨fault, failed, _, hFail⟩ |
      ⟨middle, place, hAgrees, hPlace, hNoDirectory, _⟩
    · rw [hFail] at hRun
      cases hRun
    · exact ⟨middle, place, hAgrees, hPlace, hNoDirectory⟩
  · rintro ⟨more, place, hAgrees, hMore, hNoDirectory⟩
    have hNames : path.names ≠ [] := by
      intro hNames
      obtain ⟨_, hWalk⟩ := place_eq_ok.mp hMore
      rw [hNames] at hWalk
      cases hWalk
      exact hNoDirectory rfl
    obtain ⟨parent, hParent, hThere⟩ := exists_parent hMore
    obtain ⟨middle, hRun, hMade⟩ := run_makeDirectories_of_agrees hAgrees hParent hThere
    have hPlace : middle.place path = .ok place :=
      place_of_agrees_of_parent hMade.within hMore hNames hMade.leads hMade.directory
    have hFree : middle.at? place ≠ some .directory :=
      fun hDirectory => hNoDirectory (hMade.within.directories place hDirectory)
    refine ⟨middle.put path (.file (f (middle.content? path))), ?_⟩
    rw [revise, run_bind, hRun]
    simp only [run_bind, run_get]
    exact run_update_of_place (f := fun _ => f (middle.content? path)) hPlace hFree

/-! ### Paths without ways up -/

/-- A path that the system takes, without ways up and without names that are too long. -/
structure Proper (path : Path) : Prop extends Allowed path where
  straight : Path.upward ∉ path.names
  names : ∀ name ∈ path.names, (Utf8.encode name).length ≤ maxNameSize

instance (path : Path) : Decidable (Proper path) :=
  decidable_of_iff ('\x00' ∉ path.toText ∧ (Utf8.encode path.toText).length ≤ maxPathSize ∧
      Path.upward ∉ path.names ∧ ∀ name ∈ path.names, (Utf8.encode name).length ≤ maxNameSize)
    ⟨fun ⟨hNul, hShort, hStraight, hNames⟩ => ⟨⟨hNul, hShort⟩, hStraight, hNames⟩,
      fun h => ⟨h.noNul, h.short, h.straight, h.names⟩⟩

theorem Proper.parent (h : Proper path) : Proper path.parent where
  toAllowed := h.toAllowed.parent
  straight hMem := h.straight (List.dropLast_subset path.names hMem)
  names name hName := h.names name (List.dropLast_subset path.names hName)

/-- No file stands on the way to a path. -/
def Clear (tree : FileTree) (path : Path) : Prop :=
  ∀ n < path.names.length, tree.fileAt? { path with names := path.names.take n } = none

instance (tree : FileTree) (path : Path) : Decidable (tree.Clear path) :=
  inferInstanceAs (Decidable (∀ n < path.names.length, _))

/-- Over directories, names lead to the place that they spell. -/
theorem walk_of_directories {start : Path} {names : List Text} (hStraight : Path.upward ∉ names)
    (hNames : ∀ name ∈ names, (Utf8.encode name).length ≤ maxNameSize)
    (hDirectories : ∀ n < names.length,
      tree.at? { start with names := start.names ++ names.take n } = some .directory) :
    tree.walk start names = .ok { start with names := start.names ++ names } := by
  induction names generalizing start with
  | nil => simp [walk]
  | cons name names ih =>
      rw [List.mem_cons, not_or] at hStraight
      have hStart : tree.at? start = some .directory := by
        simpa using hDirectories 0 (by simp)
      have hBelow : ∀ n < names.length, tree.at?
          { start.child name with names := (start.child name).names ++ names.take n } =
            some .directory := by
        intro n hn
        have hNext := hDirectories (n + 1) (by simpa using hn)
        simpa [Path.child, List.append_assoc] using hNext
      have hRest := ih hStraight.2
        (fun other hOther => hNames other (List.mem_cons_of_mem name hOther)) hBelow
      rw [walk, hStart]
      simp only
      rw [if_neg (Ne.symm hStraight.1),
        if_neg (Nat.not_lt.mpr (hNames name List.mem_cons_self)), hRest]
      simp [Path.child, List.append_assoc]

/-- A path over directories leads to itself. -/
theorem place_of_directories (h : Proper path) (hDirectories : ∀ n < path.names.length,
      tree.at? { path with names := path.names.take n } = some .directory) :
    tree.place path = .ok path :=
  place_eq_ok.mpr ⟨h.toAllowed, walk_of_directories h.straight h.names hDirectories⟩

/-- A tree with directories at places where nothing stands. -/
def withDirectories (tree : FileTree) (places : List Path) : FileTree :=
  { entries := tree.entries ++ places.map fun place => (place, .directory) }

theorem at?_withDirectories (tree : FileTree) (places : List Path) (other : Path) :
    (tree.withDirectories places).at? other =
      if tree.at? other = none ∧ other ∈ places then some .directory else tree.at? other := by
  rw [at?, at?, withDirectories]
  cases hUp : other.names.all (· == Path.upward) with
  | true => simp
  | false =>
      simp only [Bool.false_eq_true, if_false, Entries.get?_append, Entries.get?_map_const]
      cases tree.entries.get? other with
      | some node => simp
      | none => simp

theorem agreesOff_withDirectories (tree : FileTree) (places : List Path) :
    AgreesOff none tree (tree.withDirectories places) := by
  constructor
  · intro other _
    rw [fileAt?, fileAt?, at?_withDirectories]
    split_ifs with hNew
    · rw [hNew.1]
    · rfl
  · intro other hDirectory
    rw [at?_withDirectories, hDirectory, if_neg (by simp)]

/-- A path on whose way no file stands can be written, unless it is that of a directory. -/
theorem writable_of_clear (h : Proper path) (hClear : tree.Clear path)
    (hNoDirectory : tree.at? path ≠ some .directory) : tree.Writable path := by
  refine ⟨tree.withDirectories path.ancestors, path,
    agreesOff_withDirectories tree path.ancestors, place_of_directories h ?_, ?_⟩
  · intro n hn
    have hMem : { path with names := path.names.take n } ∈ path.ancestors :=
      List.mem_map.mpr ⟨n, List.mem_range.mpr hn, rfl⟩
    have hNoFile := hClear n hn
    rw [at?_withDirectories]
    cases hNode : tree.at? { path with names := path.names.take n } with
    | none => exact if_pos ⟨rfl, hMem⟩
    | some node =>
        cases node with
        | file content =>
            rw [fileAt?_of_file hNode] at hNoFile
            cases hNoFile
        | directory => exact if_neg (by simp)
  · rw [at?_withDirectories, if_neg]
    · exact hNoDirectory
    · rintro ⟨_, hMem⟩
      obtain ⟨n, hn, hSame⟩ := List.mem_map.mp hMem
      have hLength := congrArg (fun other : Path => other.names.length) hSame
      simp only [List.length_take] at hLength
      have hShorter := List.mem_range.mp hn
      omega

end PoolLogin.FileTree
