import PoolLogin.Proofs.FileTree.Writable

/-! Which file is found at a path after more directories have been made. In a
tree in which everything stands in a directory, a path without ways up always
leads to the same file. -/

namespace PoolLogin.FileTree

open PoolLogin.Action

variable {tree : FileTree} {path place : Path}

/-- A path at which the same file is found, or none, whatever directories are
made. A way up through a missing directory can lead to a file that no path
leads to before that directory is made. -/
def Settled (tree : FileTree) (path : Path) : Prop :=
  ∀ more, AgreesOff none tree more → more.content? path = tree.content? path

theorem settled_of_place (h : tree.place path = .ok place) : tree.Settled path := by
  intro more hAgrees
  rw [content?_of_place h, content?_of_place (place_mono hAgrees.directories h),
    hAgrees.files place (by simp)]

/-- Without files there is none that directories could lead to. -/
theorem settled_of_no_files (h : ∀ place, tree.fileAt? place = none) : tree.Settled path := by
  have hNone : ∀ more, AgreesOff none tree more → more.content? path = none := by
    intro more hAgrees
    cases hPlace : more.place path with
    | error fault => rw [content?, node?, hPlace]
    | ok place => rw [content?_of_place hPlace, hAgrees.files place (by simp), h]
  intro more hAgrees
  rw [hNone more hAgrees, hNone tree (AgreesOff.refl none tree)]

/-- A path without ways up is settled, if the file that it spells can be reached. -/
theorem settled_of_straight (hPath : Path.upward ∉ path.names)
    (hReached : tree.fileAt? path = tree.content? path) : tree.Settled path := by
  intro more hAgrees
  cases hPlace : tree.place path with
  | ok place => exact settled_of_place hPlace more hAgrees
  | error fault =>
      cases hMore : more.place path with
      | error later => rw [content?, content?, node?, node?, hPlace, hMore]
      | ok place =>
          obtain rfl : place = path := place_eq_self hPath hMore
          rw [content?_of_place hMore, hAgrees.files place (by simp), hReached]

/-! ### Removing a file -/

/-- Where a file can be written, the old one can be removed, and then there is none. -/
theorem run_remove_of_writable (h : tree.Writable path) (hSettled : tree.Settled path) :
    ∃ after, (remove path).run tree = (.ok (), after) ∧ after.Writable path ∧
      after.Settled path ∧ after.content? path = none := by
  obtain ⟨more, place, hAgrees, hMore, hNoDirectory⟩ := h
  rw [run_remove, readFile_eq]
  rcases place_of_agrees hAgrees hMore with hPlace | hMissing
  · have hFree : tree.at? place ≠ some .directory :=
      fun hDirectory => hNoDirectory (hAgrees.directories place hDirectory)
    rw [hPlace]
    simp only
    cases hNode : tree.at? place with
    | none =>
        refine ⟨tree, rfl, writable_of_place hPlace hFree, hSettled, ?_⟩
        rw [content?_of_place hPlace, fileAt?_of_none hNode]
    | some node =>
        cases node with
        | directory => exact absurd hNode hFree
        | file content =>
            obtain ⟨hDrop, hGone⟩ := at?_drop_self hPlace hFree
            refine ⟨tree.drop path, rfl, writable_of_place hDrop (by simp [hGone]),
              settled_of_place hDrop, ?_⟩
            rw [content?_of_place hDrop, fileAt?_of_none hGone]
  · rw [hMissing]
    refine ⟨tree, rfl, ⟨more, place, hAgrees, hMore, hNoDirectory⟩, hSettled, ?_⟩
    rw [content?, node?, hMissing]

/-! ### Trees -/

/-- A tree in which everything stands in a directory. -/
def Grounded (tree : FileTree) : Prop :=
  ∀ place, tree.at? place ≠ none → tree.at? place.parent = some .directory

/-- It is enough to look at the entries of a tree. -/
theorem grounded_of_entries
    (h : ∀ entry ∈ tree.entries, tree.at? entry.1.parent = some .directory) : tree.Grounded := by
  intro place hNode
  cases hUp : place.names.all (· == Path.upward) with
  | true =>
      have hParent : place.parent.names.all (· == Path.upward) = true := by
        rw [List.all_eq_true] at hUp ⊢
        exact fun name hName => hUp name (List.dropLast_subset place.names hName)
      rw [at?, hParent, if_pos rfl]
  | false =>
      rw [at?, hUp, if_neg Bool.false_ne_true] at hNode
      obtain ⟨entry, hEntry, rfl⟩ := Entries.exists_mem_of_get? hNode
      exact h entry hEntry

namespace Grounded

/-- Whatever stands somewhere stands below directories. -/
theorem directories (hTree : tree.Grounded) (hNode : tree.at? path ≠ none) :
    ∀ n < path.names.length, tree.at? { path with names := path.names.take n } =
      some .directory := by
  induction hLength : path.names.length generalizing path with
  | zero => exact fun n hn => absurd hn (Nat.not_lt_zero n)
  | succ length ih =>
      intro n hn
      have hDirectory := hTree path hNode
      have hNames : path.parent.names = path.names.take length := by
        rw [Path.parent, List.dropLast_eq_take, hLength, Nat.add_sub_cancel]
      rcases Nat.lt_succ_iff_lt_or_eq.mp hn with hLess | rfl
      · have hAbove := ih (show tree.at? path.parent ≠ none by simp [hDirectory])
          (by rw [hNames, List.length_take, hLength]; omega) n hLess
        rwa [hNames, List.take_take, Nat.min_eq_left (Nat.le_of_lt hLess)] at hAbove
      · rw [← hNames]
        exact hDirectory

/-- Whatever stands at a path can be reached over its directories. -/
theorem leads (hTree : tree.Grounded) (h : Proper path) (hNode : tree.at? path ≠ none) :
    tree.place path = .ok path :=
  place_of_directories h (hTree.directories hNode)

theorem fileAt?_eq (hTree : tree.Grounded) (h : Proper path) :
    tree.fileAt? path = tree.content? path := by
  cases hNode : tree.at? path with
  | some node => rw [content?_of_place (hTree.leads h (by simp [hNode]))]
  | none =>
      rw [fileAt?_of_none hNode]
      cases hPlace : tree.place path with
      | error fault => rw [content?, node?, hPlace]
      | ok place =>
          obtain rfl : place = path := place_eq_self h.straight hPlace
          rw [content?_of_place hPlace, fileAt?_of_none hNode]

theorem settled (hTree : tree.Grounded) (h : Proper path) : tree.Settled path :=
  settled_of_straight h.straight (hTree.fileAt?_eq h)

end Grounded

end PoolLogin.FileTree
