import Mathlib.Tactic.SplitIfs
import PoolLogin.FileTree.Basic
import PoolLogin.Proofs.Entries

/-! Where paths lead, and what stands there after a tree has changed. A way
goes through directories only, so it stays open as long as they stay. -/

namespace PoolLogin.FileTree

variable {tree before after : FileTree} {path place : Path} {node : Node}

/-- The content of the file at a place, if a file stands there. -/
def fileAt? (tree : FileTree) (place : Path) : Option Bytes :=
  match tree.at? place with
  | some (.file content) => some content
  | _ => none

theorem fileAt?_of_file {content : Bytes} (h : tree.at? place = some (.file content)) :
    tree.fileAt? place = some content := by
  rw [fileAt?, h]

theorem fileAt?_of_none (h : tree.at? place = none) : tree.fileAt? place = none := by
  rw [fileAt?, h]

theorem at?_of_fileAt? {content : Bytes} (h : tree.fileAt? place = some content) :
    tree.at? place = some (.file content) := by
  unfold fileAt? at h
  split at h
  · next hNode =>
      rw [hNode, Option.some.inj h]
  · cases h

/-- Only directories stand where nothing but ways up lead. -/
theorem not_upward_of_at? (h : tree.at? place ≠ some .directory) :
    place.names.all (· == Path.upward) = false := by
  cases hAll : place.names.all (· == Path.upward) with
  | false => rfl
  | true => exact absurd (by rw [at?, hAll]; rfl) h

theorem put_eq (h : tree.place path = .ok place) :
    tree.put path node = { entries := tree.entries.put place node } := by
  rw [put, h]

/-- A node is put where its path leads, and everything else stays. -/
theorem at?_put (h : tree.place path = .ok place) (hPlace : tree.at? place ≠ some .directory)
    (other : Path) :
    (tree.put path node).at? other = if other = place then some node else tree.at? other := by
  rw [put_eq h, at?, at?]
  split_ifs with hUpward hOther hOther
  · rw [hOther, not_upward_of_at? hPlace] at hUpward
    cases hUpward
  · rfl
  · rw [hOther, Entries.get?_put_self]
  · rw [Entries.get?_put_of_ne hOther]

/-- What stands at the end of a path is taken away, and everything else stays. -/
theorem at?_drop (h : tree.place path = .ok place) (hPlace : tree.at? place ≠ some .directory)
    (other : Path) :
    (tree.drop path).at? other = if other = place then none else tree.at? other := by
  rw [drop, h]
  simp only [at?]
  split_ifs with hUpward hOther hOther
  · rw [hOther, not_upward_of_at? hPlace] at hUpward
    cases hUpward
  · rfl
  · rw [hOther, Entries.get?_erase_self]
  · rw [Entries.get?_erase_of_ne hOther]

/-! ### Ways -/

/-- Without ways up, names lead to the place that they spell. -/
theorem walk_eq {start : Path} {names : List Text} (hNames : Path.upward ∉ names)
    (h : tree.walk start names = .ok place) :
    place = { start with names := start.names ++ names } := by
  induction names generalizing start with
  | nil =>
      cases h
      rw [List.append_nil]
  | cons name names ih =>
      rw [List.mem_cons, not_or] at hNames
      rw [walk] at h
      split at h
      · cases h
      · cases h
      · rw [if_neg (Ne.symm hNames.1)] at h
        split at h
        · cases h
        · rw [ih hNames.2 h]
          simp [Path.child]

/-- A path whose text the system takes. -/
structure Allowed (path : Path) : Prop where
  noNul : '\x00' ∉ path.toText
  short : (Utf8.encode path.toText).length ≤ maxPathSize

theorem place_of_allowed (h : Allowed path) :
    tree.place path =
      (tree.walk { path with names := [] } path.names).mapError (Obstacle.fault path) := by
  rw [FileTree.place, if_neg (by simpa using h.noNul), if_neg (Nat.not_lt.mpr h.short)]

/-- A path leads somewhere if the system takes it and its names lead there. -/
theorem place_eq_ok : tree.place path = .ok place ↔
    Allowed path ∧ tree.walk { path with names := [] } path.names = .ok place := by
  constructor
  · intro h
    unfold FileTree.place at h
    simp only at h
    split_ifs at h with hNul hLong
    refine ⟨⟨by simpa using hNul, Nat.not_lt.mp hLong⟩, ?_⟩
    cases hWalk : tree.walk { path with names := [] } path.names with
    | error obstacle =>
        rw [hWalk] at h
        cases h
    | ok reached =>
        rw [hWalk] at h
        cases h
        rfl
  · rintro ⟨hAllowed, hWalk⟩
    rw [place_of_allowed hAllowed, hWalk]
    rfl

/-- Without ways up, a path that leads anywhere leads to itself. -/
theorem place_eq_self (hPath : Path.upward ∉ path.names) (h : tree.place path = .ok place) :
    place = path := by
  obtain ⟨_, hWalk⟩ := place_eq_ok.mp h
  rw [walk_eq hPath hWalk]
  simp

/-- A way stays open as long as the directories on it stay. -/
theorem walk_mono (hDirectories : ∀ place, before.at? place = some .directory →
      after.at? place = some .directory)
    {start : Path} {names : List Text} (h : before.walk start names = .ok place) :
    after.walk start names = .ok place := by
  induction names generalizing start with
  | nil => exact h
  | cons name names ih =>
      rw [walk] at h ⊢
      split at h
      · cases h
      · cases h
      · next hStart =>
          rw [hDirectories _ hStart]
          simp only
          split_ifs at h ⊢ with hUp hLong
          · exact ih h
          · exact ih h

theorem place_mono (hDirectories : ∀ place, before.at? place = some .directory →
      after.at? place = some .directory)
    (h : before.place path = .ok place) : after.place path = .ok place := by
  rw [place_eq_ok] at h ⊢
  exact ⟨h.1, walk_mono hDirectories h.2⟩

theorem node?_of_place (h : tree.place path = .ok place) : tree.node? path = tree.at? place := by
  rw [node?, h]

theorem content?_of_place (h : tree.place path = .ok place) :
    tree.content? path = tree.fileAt? place := by
  rw [content?, node?_of_place h]
  rfl

/-- The content of a file is found where the path leads. -/
theorem place_of_content? {content : Bytes} (h : tree.content? path = some content) :
    ∃ place, tree.place path = .ok place ∧ tree.at? place = some (.file content) := by
  cases hPlace : tree.place path with
  | error fault =>
      rw [content?, node?, hPlace] at h
      cases h
  | ok place =>
      rw [content?_of_place hPlace] at h
      exact ⟨place, rfl, at?_of_fileAt? h⟩

end PoolLogin.FileTree
