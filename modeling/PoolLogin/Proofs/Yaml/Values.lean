import Mathlib.Data.List.Nodup
import Mathlib.Data.List.TakeWhile
import PoolLogin.Proofs.Yaml.Nodes
import PoolLogin.Yaml.Value

/-! The values of rows. Whatever order they are made in, and also where one node is met twice, a
cell shows what its node holds. -/

namespace PoolLogin.Yaml

def datumOf : Option Text → Datum
  | none => .null
  | some text => .string (.ofText text)

namespace Cells

/-- Two cells are the key and the value of a pair. -/
def HasEntry (cells : Cells) (entry : ValueId × ValueId) (pair : Text × Option Text) : Prop :=
  cells[entry.1]? = some (.scalar (datumOf (some pair.1))) ∧
    cells[entry.2]? = some (.scalar (datumOf pair.2))

/-- A cell is the map of a row. -/
def HasRow (cells : Cells) (id : ValueId) (row : Row) : Prop :=
  ∃ entries, cells[id]? = some (.map entries) ∧ List.Forall₂ cells.HasEntry entries row

variable {cells : Cells} {v w : ValueId} {cell other : Cell}

/-- What is put into a cell changes no cell that holds something else. -/
theorem getElem?_set_of_ne (h : cells[v]? = some cell) (hOther : cells[w]? = some other)
    (hNe : other ≠ cell) (filled : Cell) : (cells.setIfInBounds v filled)[w]? = some other := by
  rw [Array.getElem?_setIfInBounds_ne, hOther]
  rintro rfl
  rw [h] at hOther
  exact hNe (Option.some.inj hOther).symm

theorem getElem?_set_self (h : cells[v]? = some cell) (filled : Cell) :
    (cells.setIfInBounds v filled)[v]? = some filled := by
  obtain ⟨hIn, _⟩ := Array.getElem?_eq_some_iff.mp h
  exact Array.getElem?_setIfInBounds_self_of_lt hIn

/-- Entries stay when another map is filled. -/
theorem HasEntry.set {entry : ValueId × ValueId} {pair : Text × Option Text}
    (hEntry : cells.HasEntry entry pair) (h : cells[v]? = some (.map [])) (filled : Cell) :
    HasEntry (cells.setIfInBounds v filled) entry pair :=
  ⟨getElem?_set_of_ne h hEntry.1 (by simp) filled, getElem?_set_of_ne h hEntry.2 (by simp) filled⟩

theorem HasEntry.within {a b : Cells} {entry : ValueId × ValueId}
    {pair : Text × Option Text} (h : a.HasEntry entry pair) (hWithin : Within a b) :
    b.HasEntry entry pair :=
  ⟨hWithin _ _ h.1, hWithin _ _ h.2⟩

/-- A row that is filled stays when others are. -/
theorem HasRow.kept {a b : Cells} {row : Row} (h : a.HasRow v row) {waiting : List ValueId}
    (hOpen : ∀ w ∈ waiting, a[w]? = some (.map []))
    (hKept : ∀ w cell, w ∉ waiting → a[w]? = some cell → b[w]? = some cell) (hv : v ∉ waiting) :
    b.HasRow v row := by
  obtain ⟨entries, hCell, hEntries⟩ := h
  have hScalar : ∀ (w : ValueId) (datum : Datum), a[w]? = some (.scalar datum) →
      b[w]? = some (.scalar datum) := by
    intro w datum hw
    refine hKept w _ ?_ hw
    intro hMem
    rw [hOpen w hMem] at hw
    cases hw
  exact ⟨entries, hKept v _ hv hCell, hEntries.imp fun _ _ hEntry =>
    ⟨hScalar _ _ hEntry.1, hScalar _ _ hEntry.2⟩⟩

end Cells

theorem Nodes.node_eq {nodes : Nodes} {id : NodeId} {node : Node} (h : nodes[id]? = some node) :
    nodes.node id = node := by
  rw [Nodes.node, h]
  rfl

/-- What stands in the first of two related lists is related to something in the second. -/
theorem exists_related {α β : Type} {R : α → β → Prop} {first : List α} {second : List β}
    (h : List.Forall₂ R first second) {a : α} (ha : a ∈ first) : ∃ b ∈ second, R a b := by
  obtain ⟨i, rfl⟩ := List.mem_iff_get.mp ha
  have hIn : i.1 < second.length := h.length_eq ▸ i.2
  exact ⟨second.get ⟨i.1, hIn⟩, List.get_mem _ _, h.get i.2 hIn⟩

theorem forall₂_of_common {α β γ : Type} {R : α → β → Prop} {S : α → γ → Prop} {T : γ → β → Prop}
    (h : ∀ a b c, R a b → S a c → T c b) {common : List α} {first : List β} {second : List γ}
    (hFirst : List.Forall₂ R common first) (hSecond : List.Forall₂ S common second) :
    List.Forall₂ T second first := by
  induction hFirst generalizing second with
  | nil =>
      cases hSecond
      exact .nil
  | cons hR _ ih =>
      cases hSecond with
      | cons hS hRest => exact .cons (h _ _ _ hR hS) (ih hRest)

/-! ### Merging -/

namespace Merge

variable {nodes : Nodes} {id : NodeId}

theorem run_plainKey {text : Text} (h : nodes[id]? = some (textNode text)) :
    (plainKey id).run nodes = .ok ((), nodes) := by
  have hSame : (nodes.modify id fun node =>
      if node.tag = .value then { node with tag := .string } else node) = nodes := by
    apply Array.ext_getElem?
    intro other
    rw [Array.getElem?_modify]
    split_ifs with hEq
    · subst hEq
      rw [h]
      rfl
    · rfl
  change Except.ok ((), nodes.modify id _) = _
  rw [hSame]

theorem run_plainKeys {pairs : List (NodeId × NodeId)} {row : Row}
    (h : List.Forall₂ nodes.HasPair pairs row) :
    (pairs.forM fun pair => plainKey pair.1).run nodes = .ok ((), nodes) := by
  induction h with
  | nil => rfl
  | cons hPair _ ih =>
      rw [List.forM, StateT.run_bind, run_plainKey hPair.1]
      exact ih

/-- No key of a row asks for others. -/
theorem run_merge {pairs : List (NodeId × NodeId)} {row : Row}
    (h : nodes[id]? = some (mappingNode pairs)) (hRow : List.Forall₂ nodes.HasPair pairs row) :
    (merge id).run nodes = .ok ((), nodes) := by
  have hNone : ∀ pair ∈ pairs, ((nodes.node pair.1).tag != .merge) = true := by
    intro pair hPair
    obtain ⟨_, _, hKey, _⟩ := exists_related hRow hPair
    rw [Nodes.node_eq hKey]
    rfl
  have hOwn : (pairs.span fun pair => (nodes.node pair.1).tag != .merge) = (pairs, []) := by
    rw [List.span_eq_takeWhile_dropWhile, List.takeWhile_eq_self_iff.mpr hNone,
      List.dropWhile_eq_nil_iff.mpr hNone]
  have hPairs : (Merge.pairs id).run nodes = .ok (pairs, nodes) := by
    rw [Merge.pairs]
    simp only [StateT.run_bind, StateT.run_get, pure_bind, Nodes.node_eq h]
    rfl
  rw [merge]
  simp only [StateT.run_bind, StateT.run_get, pure_bind, mergeFrom, hPairs]
  simp only [bind, Except.bind, List.drop_zero, hOwn, run_plainKeys hRow]
  rfl

end Merge

theorem valueNode_injective {a b : Option Text} (h : valueNode a = valueNode b) : a = b := by
  cases a <;> cases b
  · rfl
  · cases h
  · cases h
  · injection h with _ hContent
    injection hContent with hText
    rw [WideText.ofText_injective hText]

/-- A node is the mapping of one row only. -/
theorem Nodes.HasRow.unique {nodes : Nodes} {id : NodeId} {first second : Row}
    (hFirst : nodes.HasRow id first) (hSecond : nodes.HasRow id second) : first = second := by
  obtain ⟨pairs, hNode, hPairs⟩ := hFirst
  obtain ⟨others, hOther, hOthers⟩ := hSecond
  rw [hNode] at hOther
  cases hOther
  refine List.right_unique_forall₂' ?_ hPairs hOthers
  rintro ids ⟨key, value⟩ ⟨otherKey, otherValue⟩ ⟨hKey, hValue⟩ ⟨hOtherKey, hOtherValue⟩
  rw [hKey] at hOtherKey
  rw [hValue] at hOtherValue
  have hKeys : some key = some otherKey := valueNode_injective (Option.some.inj hOtherKey)
  exact Prod.ext (Option.some.inj hKeys) (valueNode_injective (Option.some.inj hOtherValue))

namespace Values

variable {nodes : Nodes} {id : NodeId} {s : Making}

theorem run_make_made {v : ValueId} (h : s.made[id]? = some (some v)) :
    (make id).run s = .ok (v, s) := by
  rw [make]
  simp only [StateT.run_bind, StateT.run_get, pure_bind, h]
  rfl

theorem run_makeScalar {value : Option Text} (h : s.nodes[id]? = some (valueNode value)) :
    (makeScalar id).run s =
      .ok (s.cells.size, { s with cells := s.cells.push (.scalar (datumOf value)) }) := by
  have hNode : s.nodes.node id = valueNode value := Nodes.node_eq h
  rw [makeScalar]
  simp only [StateT.run_bind, StateT.run_get, pure_bind, hNode, textOf]
  cases value <;> rfl

theorem run_make_scalar (hNew : ∀ v, s.made[id]? ≠ some (some v)) {value : Option Text}
    (h : s.nodes[id]? = some (valueNode value)) :
    (make id).run s = .ok (s.cells.size, { s with
      cells := s.cells.push (.scalar (datumOf value))
      made := s.made.setIfInBounds id (some s.cells.size) }) := by
  have hNode : s.nodes.node id = valueNode value := Nodes.node_eq h
  have hTag : (valueNode value).tag = .null ∨ (valueNode value).tag = .string := by
    cases value
    · exact Or.inl rfl
    · exact Or.inr rfl
  rw [make]
  rcases hTag with hTag | hTag <;>
  · simp only [StateT.run_bind, StateT.run_get, StateT.run_pure, pure_bind, node, hNode, hTag,
      run_makeScalar h]
    rfl

/-- A collection was met, and waits in an empty cell. -/
def Making.met (s : Making) (id : NodeId) (cell : Cell) : Making :=
  { s with
    cells := s.cells.push cell
    made := s.made.setIfInBounds id (some s.cells.size)
    waiting := (id, s.cells.size) :: s.waiting }

theorem run_make_later (hNew : ∀ v, s.made[id]? ≠ some (some v)) {cell : Cell}
    (h : (s.nodes.node id).tag = .mapping ∧ cell = .map [] ∨
      (s.nodes.node id).tag = .sequence ∧ cell = .list []) :
    (make id).run s = .ok (s.cells.size, s.met id cell) := by
  rw [make]
  rcases h with ⟨hTag, rfl⟩ | ⟨hTag, rfl⟩ <;>
  · simp only [StateT.run_bind, StateT.run_get, StateT.run_pure, pure_bind, node, hTag]
    rfl

/-! ### Making values -/

/-- Where a value was made of a scalar, a cell shows it. -/
structure Sound (nodes : Nodes) (s : Making) : Prop where
  nodes_eq : s.nodes = nodes
  shown : ∀ {id : NodeId} {v : ValueId} {value : Option Text}, s.made[id]? = some (some v) →
    nodes[id]? = some (valueNode value) → s.cells[v]? = some (.scalar (datumOf value))

/-- A node that is made is the one that is made now, or was made before. -/
theorem made_cases {made : Array (Option ValueId)} {other : NodeId} {v w : ValueId}
    (h : (made.setIfInBounds id (some v))[other]? = some (some w)) :
    (other = id ∧ w = v) ∨ made[other]? = some (some w) := by
  rw [Array.getElem?_setIfInBounds] at h
  split_ifs at h with hEq hIn
  · exact Or.inl ⟨hEq.symm, (Option.some.inj (Option.some.inj h)).symm⟩
  · exact Or.inr h

theorem exists_make_scalar (hs : Sound nodes s) {value : Option Text}
    (h : nodes[id]? = some (valueNode value)) :
    ∃ v t, (make id).run s = .ok (v, t) ∧ Sound nodes t ∧ Within s.cells t.cells ∧
      t.waiting = s.waiting ∧ t.cells[v]? = some (.scalar (datumOf value)) := by
  by_cases hMade : ∃ v, s.made[id]? = some (some v)
  · obtain ⟨v, hMade⟩ := hMade
    exact ⟨v, s, run_make_made hMade, hs, fun _ _ h => h, rfl, hs.shown hMade h⟩
  · refine ⟨_, _, run_make_scalar (not_exists.mp hMade) (hs.nodes_eq ▸ h), ⟨hs.nodes_eq, ?_⟩,
      Within.push _ _, rfl, Array.getElem?_push_size⟩
    intro other w value' hOther hNode
    rcases made_cases hOther with ⟨rfl, rfl⟩ | hBefore
    · rw [h] at hNode
      rw [← valueNode_injective (Option.some.inj hNode)]
      exact Array.getElem?_push_size
    · exact Within.push _ _ _ _ (hs.shown hBefore hNode)

/-! ### Entries -/

/-- A pair of a mapping becomes an entry of its map. -/
def makeEntry (entries : List (ValueId × ValueId)) (pair : NodeId × NodeId) :
    Maker (List (ValueId × ValueId)) := do
  let key ← make pair.1
  if !(← get).cells.isKey key then throw .malformed
  let value ← make pair.2
  return putEntry (← get).cells key value entries

theorem scalar_eq {cells : Cells} {v : ValueId} {datum : Datum}
    (h : cells[v]? = some (.scalar datum)) : cells.scalar v = datum := by
  rw [Cells.scalar, Cells.cell, h]
  rfl

/-- Different texts are different keys. -/
theorem sameKey_eq_false {cells : Cells} {a b : ValueId} {first second : Text}
    (ha : cells[a]? = some (.scalar (datumOf (some first))))
    (hb : cells[b]? = some (.scalar (datumOf (some second)))) (hNe : first ≠ second) :
    sameKey cells a b = false := by
  have hTexts : (datumOf (some first) == datumOf (some second)) = false := by
    change (WideText.ofText first == WideText.ofText second) = false
    rw [beq_eq_false_iff_ne]
    exact fun hEq => hNe (WideText.ofText_injective hEq)
  have hPlaces : (a == b) = false := by
    rw [beq_eq_false_iff_ne]
    rintro rfl
    rw [ha] at hb
    injection hb with hb
    injection hb with hb
    injection hb with hb
    exact hNe (WideText.ofText_injective hb)
  rw [sameKey, hPlaces, scalar_eq ha, scalar_eq hb, hTexts]
  rfl

theorem putEntry_of_new {cells : Cells} {key value : ValueId} {entries : List (ValueId × ValueId)}
    (h : ∀ entry ∈ entries, sameKey cells entry.1 key = false) :
    putEntry cells key value entries = entries ++ [(key, value)] := by
  induction entries with
  | nil => rfl
  | cons entry entries ih =>
      obtain ⟨hFirst, hOthers⟩ := List.forall_mem_cons.mp h
      rw [putEntry, hFirst, if_neg Bool.false_ne_true, ih hOthers]
      rfl

theorem exists_makeEntry (hs : Sound nodes s) {entries : List (ValueId × ValueId)} {done : Row}
    (hDone : List.Forall₂ s.cells.HasEntry entries done) {ids : NodeId × NodeId}
    {pair : Text × Option Text} (h : nodes.HasPair ids pair) (hNew : pair.1 ∉ done.map (·.1)) :
    ∃ entry t, (makeEntry entries ids).run s = .ok (entries ++ [entry], t) ∧ Sound nodes t ∧
      Within s.cells t.cells ∧ t.waiting = s.waiting ∧ t.cells.HasEntry entry pair := by
  have hText : nodes[ids.1]? = some (valueNode (some pair.1)) := h.1
  obtain ⟨key, middle, hKey, hMiddle, hFirst, hWaiting, hKeyCell⟩ := exists_make_scalar hs hText
  obtain ⟨value, t, hValue, ht, hSecond, hSame, hValueCell⟩ := exists_make_scalar hMiddle h.2
  have hNewKey : ∀ entry ∈ entries, sameKey t.cells entry.1 key = false := by
    intro entry hEntry
    obtain ⟨other, hOther, hShown, _⟩ := exists_related hDone hEntry
    refine sameKey_eq_false ((hFirst.trans hSecond) _ _ hShown) (hSecond _ _ hKeyCell) ?_
    rintro hEq
    exact hNew (hEq ▸ List.mem_map_of_mem hOther)
  have hIsKey : middle.cells.isKey key = true := by
    rw [Cells.isKey, Cells.cell, hKeyCell]
    rfl
  refine ⟨(key, value), t, ?_, ht, hFirst.trans hSecond, hSame.trans hWaiting,
    hSecond _ _ hKeyCell, hValueCell⟩
  rw [makeEntry]
  simp only [StateT.run_bind, StateT.run_get, pure_bind, hKey]
  change StateT.run (do
    if !middle.cells.isKey key then throw .malformed
    let value ← make ids.2
    return putEntry (← get).cells key value entries) middle = _
  rw [hIsKey, ← putEntry_of_new hNewKey]
  simp only [Bool.not_true, Bool.false_eq_true, if_false, StateT.run_bind, hValue]
  rfl

theorem exists_makeEntries {pairs : List (NodeId × NodeId)} {row done : Row}
    {entries : List (ValueId × ValueId)} (hs : Sound nodes s)
    (hPairs : List.Forall₂ nodes.HasPair pairs row)
    (hDone : List.Forall₂ s.cells.HasEntry entries done)
    (hKeys : ((done ++ row).map (·.1)).Nodup) :
    ∃ all t, (pairs.foldlM makeEntry entries).run s = .ok (all, t) ∧ Sound nodes t ∧
      Within s.cells t.cells ∧ t.waiting = s.waiting ∧
      List.Forall₂ t.cells.HasEntry all (done ++ row) := by
  induction hPairs generalizing s done entries with
  | nil =>
      refine ⟨entries, s, rfl, hs, fun _ _ h => h, rfl, ?_⟩
      rwa [List.append_nil]
  | @cons ids pair pairs row hPair _ ih =>
      have hNew : pair.1 ∉ done.map (·.1) := by
        rw [List.map_append, List.map_cons] at hKeys
        exact fun hMem => (List.nodup_append.mp hKeys).2.2 _ hMem _ List.mem_cons_self rfl
      obtain ⟨entry, middle, hEntry, hMiddle, hFirst, hWaiting, hShown⟩ :=
        exists_makeEntry hs hDone hPair hNew
      have hAppend : done ++ pair :: row = (done ++ [pair]) ++ row := by simp
      rw [hAppend] at hKeys ⊢
      obtain ⟨all, t, hAll, ht, hSecond, hSame, hEntries⟩ := ih hMiddle
        (List.rel_append (hDone.imp fun _ _ h => h.within hFirst) (.cons hShown .nil)) hKeys
      refine ⟨all, t, ?_, ht, hFirst.trans hSecond, hSame.trans hWaiting, hEntries⟩
      rw [List.foldlM_cons, StateT.run_bind, hEntry]
      exact hAll

end Values

end PoolLogin.Yaml
