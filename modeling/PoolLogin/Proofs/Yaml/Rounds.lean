import Mathlib.Data.List.Nodup
import PoolLogin.Proofs.Yaml.Values

/-! The rounds in which collections are filled. A table takes two: in the first
its rows are met, and in the second they are filled. -/

namespace PoolLogin.Yaml

namespace Values

variable {nodes : Nodes} {id : NodeId} {s : Making}

theorem run_makeEntries {pairs : List (NodeId × NodeId)} {row : Row}
    (h : s.nodes[id]? = some (mappingNode pairs))
    (hPairs : List.Forall₂ s.nodes.HasPair pairs row) :
    (makeEntries id).run s = (pairs.foldlM makeEntry []).run s := by
  have hNode : s.nodes.node id = mappingNode pairs := Nodes.node_eq h
  have hMerge : (Merge.merge id).run s.nodes = pure ((), s.nodes) := Merge.run_merge h hPairs
  rw [makeEntries]
  simp only [StateT.run_bind, StateT.run_get, StateT.run_pure, StateT.run_set, StateT.run_monadLift,
    monadLift_self, liftM, pure_bind, node, hNode, mappingNode, hMerge]
  rfl

/-- A row becomes a map in the cell that was kept for it. -/
theorem exists_fill (hs : Sound nodes s) {row : Row} (hRow : nodes.HasRow id row)
    (hKeys : (row.map (·.1)).Nodup) {v : ValueId} (hCell : s.cells[v]? = some (.map [])) :
    ∃ t, (fill id v).run s = .ok ((), t) ∧ Sound nodes t ∧ t.waiting = s.waiting ∧
      t.cells.HasRow v row ∧
      ∀ w cell, w ≠ v → s.cells[w]? = some cell → t.cells[w]? = some cell := by
  obtain ⟨pairs, hNode, hPairs⟩ := hRow
  obtain rfl := hs.nodes_eq
  obtain ⟨entries, t, hEntries, ht, hWithin, hWaiting, hShown⟩ :=
    exists_makeEntries hs hPairs .nil hKeys
  rw [← run_makeEntries hNode hPairs] at hEntries
  have hOpen : t.cells[v]? = some (.map []) := hWithin _ _ hCell
  refine ⟨{ t with cells := t.cells.setIfInBounds v (.map entries) }, ?_, ⟨ht.nodes_eq, ?_⟩,
    hWaiting, ⟨entries, ?_, ?_⟩, ?_⟩
  · rw [fill]
    simp only [StateT.run_bind, StateT.run_get, StateT.run_pure, pure_bind, node,
      Nodes.node_eq hNode, mappingNode, StateT.run_map, hEntries]
    rfl
  · intro other w value hMade hValue
    exact Cells.getElem?_set_of_ne hOpen (ht.shown hMade hValue) (by simp) _
  · exact Cells.getElem?_set_self hOpen _
  · exact hShown.imp fun entry pair hEntry => hEntry.set hOpen _
  · intro w cell hNe hCell
    rw [Array.getElem?_setIfInBounds_ne hNe.symm]
    exact hWithin _ _ hCell

/-- The rows that wait in a round are all filled in it. -/
theorem exists_fillRows (hs : Sound nodes s) (waiting : List (NodeId × ValueId))
    (hRows : ∀ p ∈ waiting, ∃ row, nodes.HasRow p.1 row ∧ (row.map (·.1)).Nodup)
    (hOpen : ∀ p ∈ waiting, s.cells[p.2]? = some (.map [])) (hNodup : (waiting.map (·.2)).Nodup) :
    ∃ t, (waiting.forM fun p => fill p.1 p.2).run s = .ok ((), t) ∧ t.waiting = s.waiting ∧
      (∀ w cell, w ∉ waiting.map (·.2) → s.cells[w]? = some cell → t.cells[w]? = some cell) ∧
      ∀ p ∈ waiting, ∃ row, nodes.HasRow p.1 row ∧ t.cells.HasRow p.2 row := by
  induction waiting generalizing s with
  | nil => exact ⟨s, rfl, rfl, fun _ _ _ h => h, by simp⟩
  | cons p waiting ih =>
      obtain ⟨⟨row, hRow, hKeys⟩, hRows⟩ := List.forall_mem_cons.mp hRows
      obtain ⟨hCell, hOpen⟩ := List.forall_mem_cons.mp hOpen
      obtain ⟨hFresh, hNodup⟩ := List.nodup_cons.mp hNodup
      obtain ⟨middle, hFill, hMiddle, hWaiting, hFilled, hKept⟩ := exists_fill hs hRow hKeys hCell
      have hStill : ∀ q ∈ waiting, middle.cells[q.2]? = some (.map []) := by
        intro q hq
        refine hKept _ _ ?_ (hOpen q hq)
        intro hEq
        exact hFresh (List.mem_map.mpr ⟨q, hq, hEq⟩)
      obtain ⟨t, hRun, hSame, hLater, hDone⟩ := ih hMiddle hRows hStill hNodup
      refine ⟨t, ?_, hSame.trans hWaiting, ?_, ?_⟩
      · rw [List.forM, StateT.run_bind, hFill]
        exact hRun
      · intro w cell hNot hw
        rw [List.map_cons, List.mem_cons, not_or] at hNot
        exact hLater w cell hNot.2 (hKept w cell hNot.1 hw)
      · rw [List.forall_mem_cons]
        refine ⟨⟨row, hRow, hFilled.kept ?_ hLater hFresh⟩, hDone⟩
        rw [List.forall_mem_map]
        exact hStill

/-- The rows that were met wait in empty maps, each in its own. -/
structure Listed (nodes : Nodes) (s : Making) : Prop extends Sound nodes s where
  listed : ∀ {id : NodeId} {v : ValueId} {pairs : List (NodeId × NodeId)},
    s.made[id]? = some (some v) → nodes[id]? = some (mappingNode pairs) → (id, v) ∈ s.waiting
  rows : ∀ p ∈ s.waiting, ∃ row, nodes.HasRow p.1 row ∧ (row.map (·.1)).Nodup
  empty : ∀ p ∈ s.waiting, s.cells[p.2]? = some (.map [])
  nodup : (s.waiting.map (·.2)).Nodup

/-- A row that is met is listed. -/
theorem Listed.met (hs : Listed nodes s) {row : Row} (hRow : nodes.HasRow id row)
    (hKeys : (row.map (·.1)).Nodup) : Listed nodes (s.met id (.map [])) := by
  obtain ⟨pairs, hNode, hPairs⟩ := hRow
  have hPush : Within s.cells (s.cells.push (.map [])) := Within.push _ _
  have hNew : s.cells.size ∉ s.waiting.map (·.2) := by
    intro hMem
    obtain ⟨p, hp, hEq⟩ := List.mem_map.mp hMem
    have hCell := hs.empty p hp
    rw [hEq, Array.getElem?_eq_none (Nat.le_refl _)] at hCell
    cases hCell
  exact {
    nodes_eq := hs.nodes_eq
    shown := by
      intro other w value hOther hValue
      rcases made_cases hOther with ⟨rfl, _⟩ | hBefore
      · rw [hNode] at hValue
        cases value <;> cases hValue
      · exact hPush _ _ (hs.shown hBefore hValue)
    listed := by
      intro other w others hOther hMapping
      rcases made_cases hOther with ⟨rfl, rfl⟩ | hBefore
      · exact List.mem_cons_self
      · exact List.mem_cons_of_mem _ (hs.listed hBefore hMapping)
    rows := List.forall_mem_cons.mpr ⟨⟨row, ⟨pairs, hNode, hPairs⟩, hKeys⟩, hs.rows⟩
    empty := List.forall_mem_cons.mpr
      ⟨Array.getElem?_push_size, fun p hp => hPush _ _ (hs.empty p hp)⟩
    nodup := List.nodup_cons.mpr ⟨hNew, hs.nodup⟩ }

theorem exists_make_row (hs : Listed nodes s) {row : Row} (hRow : nodes.HasRow id row)
    (hKeys : (row.map (·.1)).Nodup) :
    ∃ v t, (make id).run s = .ok (v, t) ∧ Listed nodes t ∧ Within s.cells t.cells ∧
      (id, v) ∈ t.waiting ∧ s.waiting ⊆ t.waiting := by
  obtain ⟨pairs, hNode, hPairs⟩ := hRow
  by_cases hMade : ∃ v, s.made[id]? = some (some v)
  · obtain ⟨v, hMade⟩ := hMade
    exact ⟨v, s, run_make_made hMade, hs, fun _ _ h => h, hs.listed hMade hNode, fun _ h => h⟩
  · have hTag : (s.nodes.node id).tag = .mapping := by
      rw [hs.nodes_eq, Nodes.node_eq hNode]
      rfl
    exact ⟨_, _, run_make_later (not_exists.mp hMade) (Or.inl ⟨hTag, rfl⟩),
      hs.met ⟨pairs, hNode, hPairs⟩ hKeys, Within.push _ _, List.mem_cons_self,
      List.subset_cons_self _ _⟩

theorem exists_make_rows (hs : Listed nodes s) {ids : List NodeId} {rows : List Row}
    (hRows : List.Forall₂ nodes.HasRow ids rows) (hKeys : ∀ row ∈ rows, (row.map (·.1)).Nodup) :
    ∃ values t, (ids.mapM make).run s = .ok (values, t) ∧ Listed nodes t ∧
      Within s.cells t.cells ∧ s.waiting ⊆ t.waiting ∧
      List.Forall₂ (fun id v => (id, v) ∈ t.waiting) ids values := by
  induction hRows generalizing s with
  | nil => exact ⟨[], s, rfl, hs, fun _ _ h => h, fun _ h => h, .nil⟩
  | @cons id row ids rows hRow _ ih =>
      obtain ⟨hFirst, hOthers⟩ := List.forall_mem_cons.mp hKeys
      obtain ⟨v, middle, hMake, hMiddle, hWithin, hMem, hSubset⟩ := exists_make_row hs hRow hFirst
      obtain ⟨values, t, hRun, ht, hLater, hMore, hAll⟩ := ih hMiddle hOthers
      refine ⟨v :: values, t, ?_, ht, hWithin.trans hLater, List.Subset.trans hSubset hMore,
        .cons (hMore hMem) hAll⟩
      rw [List.mapM_cons, StateT.run_bind, hMake]
      change StateT.run (do return v :: (← ids.mapM make)) middle = _
      rw [StateT.run_bind, hRun]
      rfl

theorem run_fillAll_nil {rounds : Nat} (h : s.waiting = []) :
    (fillAll (rounds + 1)).run s = .ok ((), s) := by
  rw [fillAll]
  simp only [StateT.run_bind, StateT.run_get, pure_bind, h]
  rfl

theorem run_fillAll {rounds : Nat} (h : s.waiting ≠ []) {t : Making}
    (hRun : (s.waiting.reverse.forM fun p => fill p.1 p.2).run { s with waiting := [] } =
      .ok ((), t)) :
    (fillAll (rounds + 1)).run s = (fillAll rounds).run t := by
  obtain ⟨first, others, hWaiting⟩ := List.exists_cons_of_ne_nil h
  rw [hWaiting] at hRun
  rw [fillAll]
  simp only [StateT.run_bind, StateT.run_get, pure_bind, hWaiting]
  change StateT.run (do
    (first :: others).reverse.forM fun p => fill p.1 p.2
    fillAll rounds) { s with waiting := [] } = _
  rw [StateT.run_bind, hRun]
  rfl

/-- The root is filled first, with the values of its rows, which wait then. -/
theorem exists_fill_root {root : NodeId} {v : ValueId} (hs : Listed nodes s) {ids : List NodeId}
    {rows : List Row} (hRoot : nodes[root]? = some (sequenceNode ids))
    (hCell : s.cells[v]? = some (.list []))
    (hRows : List.Forall₂ nodes.HasRow ids rows) (hKeys : ∀ row ∈ rows, (row.map (·.1)).Nodup) :
    ∃ values t, (fill root v).run s = .ok ((), t) ∧ Listed nodes t ∧
      t.cells[v]? = some (.list values) ∧
      List.Forall₂ (fun id value => (id, value) ∈ t.waiting) ids values := by
  obtain ⟨values, t, hRun, ht, hWithin, _, hValues⟩ := exists_make_rows hs hRows hKeys
  have hOpen : t.cells[v]? = some (.list []) := hWithin _ _ hCell
  refine ⟨values, { t with cells := t.cells.setIfInBounds v (.list values) }, ?_, ?_,
    Cells.getElem?_set_self hOpen _, hValues⟩
  · rw [fill]
    simp only [StateT.run_bind, StateT.run_get, StateT.run_pure, pure_bind, node, hs.nodes_eq,
      Nodes.node_eq hRoot, sequenceNode, StateT.run_map, hRun]
    rfl
  · exact { ht with
      shown := fun hMade hValue => Cells.getElem?_set_of_ne hOpen (ht.shown hMade hValue) (by simp) _
      empty := fun p hp => Cells.getElem?_set_of_ne hOpen (ht.empty p hp) (by simp) _ }

/-- Then all rows are filled. -/
theorem exists_fillAll_rows (rounds : Nat) {root : ValueId} (hs : Listed nodes s)
    {ids : List NodeId} {values : List ValueId} {rows : List Row}
    (hRoot : s.cells[root]? = some (.list values)) (hNonempty : rows ≠ [])
    (hRows : List.Forall₂ nodes.HasRow ids rows)
    (hValues : List.Forall₂ (fun id value => (id, value) ∈ s.waiting) ids values) :
    ∃ t, (fillAll (rounds + 2)).run s = .ok ((), t) ∧ t.cells[root]? = some (.list values) ∧
      List.Forall₂ t.cells.HasRow values rows := by
  have hSome : s.waiting ≠ [] := by
    cases hRows with
    | nil => exact absurd rfl hNonempty
    | cons =>
        cases hValues with
        | cons hMem => exact List.ne_nil_of_mem hMem
  have hStart : Sound nodes { s with waiting := [] } := ⟨hs.nodes_eq, hs.shown⟩
  obtain ⟨t, hRun, hWaiting, hKept, hDone⟩ := exists_fillRows hStart s.waiting.reverse
    (fun p hp => hs.rows p (List.mem_reverse.mp hp))
    (fun p hp => hs.empty p (List.mem_reverse.mp hp)) (by
      rw [List.map_reverse, List.nodup_reverse]
      exact hs.nodup)
  refine ⟨t, ?_, hKept root _ ?_ hRoot, ?_⟩
  · rw [run_fillAll hSome hRun, run_fillAll_nil hWaiting]
  · intro hMem
    obtain ⟨p, hp, hEq⟩ := List.mem_map.mp hMem
    have hEmpty := hs.empty p (List.mem_reverse.mp hp)
    rw [hEq, hRoot] at hEmpty
    cases hEmpty
  · refine forall₂_of_common ?_ hRows hValues
    intro id row value hRow hMem
    obtain ⟨other, hOther, hFilled⟩ := hDone _ (List.mem_reverse.mpr hMem)
    rwa [hRow.unique hOther]

/-- A sequence that holds a row is not the only node. -/
theorem two_le_size {root : NodeId} {ids : List NodeId} {rows : List Row} (hNonempty : rows ≠ [])
    (hRoot : nodes[root]? = some (sequenceNode ids))
    (hRows : List.Forall₂ nodes.HasRow ids rows) : 2 ≤ nodes.size := by
  cases hRows with
  | nil => exact absurd rfl hNonempty
  | @cons id _ _ _ hRow _ =>
      obtain ⟨pairs, hNode, _⟩ := hRow
      have hNe : id ≠ root := by
        rintro rfl
        rw [hRoot] at hNode
        cases hNode
      have hFirst := (Array.getElem?_eq_some_iff.mp hRoot).1
      have hSecond := (Array.getElem?_eq_some_iff.mp hNode).1
      rcases Nat.lt_or_gt_of_ne hNe with hBefore | hBehind <;> omega

/-- The root is met, and nothing else. -/
def rootMet (nodes : Nodes) (root : NodeId) : Making :=
  Making.met { nodes, made := Array.replicate nodes.size none } root (.list [])

theorem run_make_root {root : NodeId} {ids : List NodeId}
    (hRoot : nodes[root]? = some (sequenceNode ids)) :
    (make root).run { nodes, made := Array.replicate nodes.size none } =
      .ok (1, rootMet nodes root) := by
  have hNew : ∀ v, (Array.replicate nodes.size (none : Option ValueId))[root]? ≠
      some (some v) := by
    intro v
    rw [Array.getElem?_replicate, if_pos (Array.getElem?_eq_some_iff.mp hRoot).1]
    simp
  have hTag : (nodes.node root).tag = .sequence := by
    rw [Nodes.node_eq hRoot]
    rfl
  exact run_make_later hNew (Or.inr ⟨hTag, rfl⟩)

theorem listed_root {root : NodeId} {ids : List NodeId}
    (hRoot : nodes[root]? = some (sequenceNode ids)) :
    Listed nodes { rootMet nodes root with waiting := [] } := by
  have hOnly : ∀ {id : NodeId} {w : ValueId} {node : Node}, nodes[id]? = some node →
      (rootMet nodes root).made[id]? = some (some w) → node = sequenceNode ids := by
    intro id w node hNode hMade
    rcases made_cases hMade with ⟨rfl, _⟩ | hBefore
    · rw [hRoot] at hNode
      exact (Option.some.inj hNode).symm
    · rw [Array.getElem?_replicate, if_pos (Array.getElem?_eq_some_iff.mp hNode).1] at hBefore
      cases hBefore
  exact {
    nodes_eq := rfl
    shown := by
      intro id w value hMade hValue
      have hEq := hOnly hValue hMade
      cases value <;> cases hEq
    listed := by
      intro id w pairs hMade hMapping
      cases hOnly hMapping hMade
    rows := by simp
    empty := by simp
    nodup := by simp }

/-- The values of a sequence of rows are a list of their maps. -/
theorem ofGraph_rows {graph : Graph} {ids : List NodeId} {rows : List Row} (hNonempty : rows ≠ [])
    (hRoot : graph.nodes[graph.root]? = some (sequenceNode ids))
    (hRows : List.Forall₂ graph.nodes.HasRow ids rows)
    (hKeys : ∀ row ∈ rows, (row.map (·.1)).Nodup) :
    ∃ values items, ofGraph graph = .ok values ∧ values.cells[values.root]? = some (.list items) ∧
      List.Forall₂ values.cells.HasRow items rows := by
  obtain ⟨nodes, root⟩ := graph
  have hSize : 2 ≤ nodes.size := two_le_size hNonempty hRoot hRows
  obtain ⟨rounds, hRounds⟩ : ∃ rounds, nodes.size + 1 = rounds + 2 + 1 :=
    ⟨nodes.size - 2, by omega⟩
  obtain ⟨items, s, hFill, hs, hCell, hItems⟩ :=
    exists_fill_root (v := 1) (listed_root hRoot) hRoot rfl hRows hKeys
  obtain ⟨t, hOthers, hList, hFilled⟩ :=
    exists_fillAll_rows rounds hs hCell hNonempty hRows hItems
  have hRun : (fillAll (nodes.size + 1)).run (rootMet nodes root) = .ok ((), t) := by
    have hFirst : ((rootMet nodes root).waiting.reverse.forM fun p => fill p.1 p.2).run
        { rootMet nodes root with waiting := [] } = .ok ((), s) := by
      change StateT.run (do fill root 1; return ()) { rootMet nodes root with waiting := [] } = _
      rw [StateT.run_bind, hFill]
      rfl
    rw [hRounds, run_fillAll (List.cons_ne_nil _ _) hFirst, hOthers]
  refine ⟨{ cells := t.cells, root := 1 }, items, ?_, hList, hFilled⟩
  have hMade : (make root).run { nodes, made := Array.replicate nodes.size none } =
      pure (1, rootMet nodes root) := run_make_root hRoot
  simp only [ofGraph, hMade, hRun, pure_bind]
  rfl

end Values

/-- Rows that were written are read as a list of their maps. -/
theorem read_table {rows : List Row} (hNonempty : rows ≠ [])
    (hRows : ∀ row ∈ rows, row ≠ [] ∧ ∀ pair ∈ row, IsCommonPair pair)
    (hKeys : ∀ row ∈ rows, (row.map (·.1)).Nodup) :
    ∃ values items, read (Json.write .indented (.arr (rows.map Json.ofRow)) ++ ['\n']) =
        .ok values ∧
      values.cells[values.root]? = some (.list items) ∧
      List.Forall₂ values.cells.HasRow items rows := by
  obtain ⟨graph, ids, hGraph, hRoot, hFound⟩ := document_table hNonempty hRows
  obtain ⟨values, items, hValues, hList⟩ := Values.ofGraph_rows hNonempty hRoot hFound hKeys
  refine ⟨values, items, ?_, hList⟩
  rw [read, hGraph]
  exact hValues

end PoolLogin.Yaml
