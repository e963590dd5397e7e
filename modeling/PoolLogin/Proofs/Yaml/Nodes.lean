import PoolLogin.Proofs.Yaml.Rows
import PoolLogin.Yaml.Node

/-! The nodes of rows. The table of nodes only grows; what was read stays where it is. -/

namespace PoolLogin.Yaml

/-- What one table holds is at the same places in another one. -/
def Within {α : Type} (a b : Array α) : Prop := ∀ (i : Nat) (x : α), a[i]? = some x → b[i]? = some x

namespace Within

variable {α : Type} {a b c : Array α}

theorem trans (hFirst : Within a b) (hSecond : Within b c) : Within a c :=
  fun i x h => hSecond i x (hFirst i x h)

theorem push (a : Array α) (x : α) : Within a (a.push x) := by
  intro i found h
  obtain ⟨hIn, hFound⟩ := Array.getElem?_eq_some_iff.mp h
  rw [Array.getElem?_push_lt hIn, hFound]

/-- What changes at a place beyond a table changes nothing of it. -/
theorem modify (h : Within a b) {i : Nat} (hOut : a.size ≤ i) (f : α → α) :
    Within a (b.modify i f) := by
  intro other found hFound
  obtain ⟨hIn, _⟩ := Array.getElem?_eq_some_iff.mp hFound
  rw [Array.getElem?_modify, if_neg (by omega)]
  exact h other found hFound

end Within

def textNode (text : Text) : Node := { tag := .string, content := .scalar (.ofText text) }

def valueNode : Option Text → Node
  | none => { tag := .null, content := .scalar (.ofText "null".toList) }
  | some text => textNode text

def sequenceNode (items : List NodeId) : Node := { tag := .sequence, content := .sequence items }

def mappingNode (pairs : List (NodeId × NodeId)) : Node :=
  { tag := .mapping, content := .mapping pairs }

/-- Two nodes are the key and the value of a pair. -/
def Nodes.HasPair (nodes : Nodes) (ids : NodeId × NodeId) (pair : Text × Option Text) : Prop :=
  nodes[ids.1]? = some (textNode pair.1) ∧ nodes[ids.2]? = some (valueNode pair.2)

/-- A table with the nodes of one pair more. -/
def Nodes.withPair (nodes : Nodes) (pair : Text × Option Text) : Nodes :=
  (nodes.push (textNode pair.1)).push (valueNode pair.2)

/-- A node is the mapping of a row. -/
def Nodes.HasRow (nodes : Nodes) (id : NodeId) (row : Row) : Prop :=
  ∃ pairs, nodes[id]? = some (mappingNode pairs) ∧ List.Forall₂ nodes.HasPair pairs row

namespace Nodes

variable {a b nodes : Nodes}

theorem within_withPair (nodes : Nodes) (pair : Text × Option Text) :
    Within nodes (nodes.withPair pair) :=
  (Within.push nodes _).trans (Within.push _ _)

theorem hasPair_withPair (nodes : Nodes) (pair : Text × Option Text) :
    (nodes.withPair pair).HasPair (nodes.size, nodes.size + 1) pair := by
  constructor
  · rw [withPair, Array.getElem?_push_lt (by simp)]
    simp
  · rw [withPair, ← Array.size_push (textNode pair.1), Array.getElem?_push_size]

theorem HasPair.within {ids : NodeId × NodeId} {pair : Text × Option Text} (h : a.HasPair ids pair)
    (hWithin : Within a b) : b.HasPair ids pair :=
  ⟨hWithin _ _ h.1, hWithin _ _ h.2⟩

theorem HasRow.within {id : NodeId} {row : Row} (h : a.HasRow id row) (hWithin : Within a b) :
    b.HasRow id row := by
  obtain ⟨pairs, hNode, hPairs⟩ := h
  exact ⟨pairs, hWithin _ _ hNode, hPairs.imp fun _ _ hPair => hPair.within hWithin⟩

/-- What is put into a node changes no node of another type. -/
theorem getElem?_modify_of_tag {id other : NodeId} {node found : Node} (h : nodes[id]? = some node)
    (hFound : nodes[other]? = some found) (hTag : found.tag ≠ node.tag) (f : Node → Node) :
    (nodes.modify id f)[other]? = some found := by
  rw [Array.getElem?_modify, if_neg, hFound]
  rintro rfl
  rw [h] at hFound
  exact hTag (congrArg Node.tag (Option.some.inj hFound)).symm

theorem getElem?_modify_self {id : NodeId} {node : Node} (h : nodes[id]? = some node)
    (f : Node → Node) : (nodes.modify id f)[id]? = some (f node) := by
  rw [Array.getElem?_modify, if_pos rfl, h]
  rfl

theorem HasPair.modify {ids : NodeId × NodeId} {pair : Text × Option Text}
    (hPair : nodes.HasPair ids pair) {id : NodeId} {node : Node} (h : nodes[id]? = some node)
    (hTag : node.tag = .mapping ∨ node.tag = .sequence) (f : Node → Node) :
    HasPair (nodes.modify id f) ids pair := by
  obtain ⟨key, value⟩ := pair
  refine ⟨getElem?_modify_of_tag h hPair.1 ?_ f, getElem?_modify_of_tag h hPair.2 ?_ f⟩
  · rcases hTag with hTag | hTag <;> simp [textNode, hTag]
  · cases value <;> rcases hTag with hTag | hTag <;> simp [valueNode, textNode, hTag]

theorem HasRow.modify {row : Row} {other : NodeId} (hRow : nodes.HasRow other row) {id : NodeId}
    {node : Node} (h : nodes[id]? = some node) (hTag : node.tag = .sequence) (f : Node → Node) :
    HasRow (nodes.modify id f) other row := by
  obtain ⟨pairs, hNode, hPairs⟩ := hRow
  refine ⟨pairs, getElem?_modify_of_tag h hNode (by simp [mappingNode, hTag]) f, ?_⟩
  exact hPairs.imp fun ids pair hPair => hPair.modify h (Or.inr hTag) f

end Nodes

namespace Node

/-- What a reader gives back, and the tokens and nodes behind it. All else is as it was. -/
def Yields {α : Type} (reader : Reader α) (s : Reading) (a : α) (rest : List Token)
    (nodes : Nodes) : Prop :=
  reader.run s = .ok (a, { s with tokens := rest, nodes })

section

variable {α β : Type} {fuel : Nat} {s : Reading} {rest more : List Token} {nodes after : Nodes}

theorem Yields.bind {reader : Reader α} {a : α} {b : β} (h : Yields reader s a rest nodes)
    (next : α → Reader β)
    (hNext : Yields (next a) { s with tokens := rest, nodes } b more after) :
    Yields (reader >>= next) s b more after := by
  unfold Yields at h hNext ⊢
  rw [StateT.run_bind, h]
  exact hNext

theorem yields_inside {reader : Reader α} {a : α} (hDepth : s.depth < maxDepth)
    (h : Yields reader { s with depth := s.depth + 1 } a rest nodes) :
    Yields (inside reader) s a rest nodes := by
  unfold Yields at h ⊢
  have hRoom : ¬maxDepth ≤ s.depth := by omega
  simp only [inside, StateT.run_bind, StateT.run_get, StateT.run_modify, pure_bind, if_neg hRoom, h]
  rfl

theorem yields_mapping {context : Context} {pairs : List (NodeId × NodeId)}
    (h : s.tokens = .flowMappingStart :: rest) (hDepth : s.depth < maxDepth)
    (hPairs : Yields (readFlowPairs fuel true)
      { s with tokens := rest, nodes := s.nodes.push (mappingNode []), depth := s.depth + 1 }
      pairs more nodes) :
    Yields (read (fuel + 1) context) s s.nodes.size more
      (nodes.modify s.nodes.size fun node => { node with content := .mapping pairs }) := by
  obtain ⟨tokens, fault, found, anchors, handles, depth⟩ := s
  subst h
  have hFlow : Yields (inside (readFlowPairs fuel true))
      ⟨rest, fault, found.push (mappingNode []), anchors, handles, depth⟩ pairs more nodes :=
    yields_inside hDepth hPairs
  exact hFlow.bind (fun pairs => do fill found.size (.mapping pairs); return found.size) rfl

theorem yields_sequence {context : Context} {items : List NodeId}
    (h : s.tokens = .flowSequenceStart :: rest) (hDepth : s.depth < maxDepth)
    (hItems : Yields (readFlowItems fuel true)
      { s with tokens := rest, nodes := s.nodes.push (sequenceNode []), depth := s.depth + 1 }
      items more nodes) :
    Yields (read (fuel + 1) context) s s.nodes.size more
      (nodes.modify s.nodes.size fun node => { node with content := .sequence items }) := by
  obtain ⟨tokens, fault, found, anchors, handles, depth⟩ := s
  subst h
  have hFlow : Yields (inside (readFlowItems fuel true))
      ⟨rest, fault, found.push (sequenceNode []), anchors, handles, depth⟩ items more nodes :=
    yields_inside hDepth hItems
  exact hFlow.bind (fun items => do fill found.size (.sequence items); return found.size) rfl

@[simp] theorem length_pairTokens (pair : Text × Option Text) : (pairTokens pair).length = 4 := rfl

theorem form_null : Scalar.form (.ofText "null".toList) = .null := by decide +kernel

theorem yields_value {context : Context} {value : Option Text}
    (h : s.tokens = valueToken value :: rest) :
    Yields (read (fuel + 1) context) s s.nodes.size rest (s.nodes.push (valueNode value)) := by
  obtain ⟨tokens, fault, found, anchors, handles, depth⟩ := s
  subst h
  cases value with
  | none =>
      rw [valueNode, ← form_null]
      rfl
  | some text => rfl

theorem yields_mappingValue {value : Option Text}
    (h : s.tokens = .value :: valueToken value :: rest) :
    Yields (readMappingValue (endsFlowPart .flowMappingEnd) (fuel + 3) .flow) s s.nodes.size rest
      (s.nodes.push (valueNode value)) := by
  obtain ⟨tokens, fault, found, anchors, handles, depth⟩ := s
  subst h
  have hValue : Yields (read (fuel + 1) .flow) _ found.size rest (found.push (valueNode value)) :=
    yields_value (s := ⟨valueToken value :: rest, fault, found, anchors, handles, depth⟩) rfl
  cases value <;> exact hValue

/-- A pair of texts is two nodes more. -/
theorem yields_pair {pair : Text × Option Text} (h : s.tokens = (pairTokens pair).tail ++ rest) :
    Yields (readFlowPair .flowMappingEnd (fuel + 4)) s (s.nodes.size, s.nodes.size + 1) rest
      (s.nodes.withPair pair) := by
  obtain ⟨tokens, fault, found, anchors, handles, depth⟩ := s
  obtain ⟨key, value⟩ := pair
  subst h
  have hValue : Yields (readMappingValue (endsFlowPart .flowMappingEnd) (fuel + 3) .flow)
      ⟨.value :: valueToken value :: rest, fault, found.push (textNode key), anchors, handles,
        depth⟩
      (found.push (textNode key)).size rest ((found.push (textNode key)).push (valueNode value)) :=
    yields_mappingValue rfl
  rw [Array.size_push] at hValue
  exact hValue.bind (fun value => return (found.size, value)) rfl

theorem yields_pairItem {pair : Text × Option Text} {ids : List (NodeId × NodeId)}
    (h : s.tokens = pairTokens pair ++ rest)
    (hOthers : Yields (readFlowPairs (fuel + 4) false)
      { s with tokens := rest, nodes := s.nodes.withPair pair } ids more nodes) :
    Yields (readFlowPairItem (fuel + 5)) s ((s.nodes.size, s.nodes.size + 1) :: ids) more
      nodes := by
  obtain ⟨tokens, fault, found, anchors, handles, depth⟩ := s
  subst h
  have hPair : Yields (readFlowPair .flowMappingEnd (fuel + 4))
      ⟨(pairTokens pair).tail ++ rest, fault, found, anchors, handles, depth⟩
      (found.size, found.size + 1) rest (found.withPair pair) := yields_pair rfl
  exact hPair.bind (fun pair => do return pair :: (← readFlowPairs (fuel + 4) false))
    (hOthers.bind (fun ids => return (found.size, found.size + 1) :: ids) rfl)

/-- The pairs of a row, up to the bracket behind them. -/
theorem exists_pairs {first : Text × Option Text} {others : Row}
    (h : s.tokens = pairTokens first ++
      ((others.map pairTokens).flatMap (.separator :: ·) ++ .flowMappingEnd :: rest))
    (hFuel : s.tokens.length + 6 ≤ fuel) :
    ∃ ids nodes, Yields (readFlowPairItem fuel) s ids rest nodes ∧ Within s.nodes nodes ∧
      List.Forall₂ nodes.HasPair ids (first :: others) := by
  induction others generalizing first s fuel with
  | nil =>
      obtain ⟨fuel, rfl⟩ : ∃ less, fuel = less + 5 := ⟨fuel - 5, by omega⟩
      exact ⟨_, _, yields_pairItem h rfl, s.nodes.within_withPair first,
        .cons (s.nodes.hasPair_withPair first) .nil⟩
  | cons second others ih =>
      obtain ⟨fuel, rfl⟩ : ∃ less, fuel = less + 6 := ⟨fuel - 6, by omega⟩
      have hLess : (pairTokens second ++ ((others.map pairTokens).flatMap (.separator :: ·) ++
          .flowMappingEnd :: rest)).length + 6 ≤ fuel + 4 := by
        simp only [h, List.map_cons, List.flatMap_cons, List.length_append, List.length_cons,
          length_pairTokens] at hFuel ⊢
        omega
      obtain ⟨ids, nodes, hYields, hWithin, hPairs⟩ :=
        ih (s := { s with tokens := _, nodes := s.nodes.withPair first }) rfl hLess
      have hOthers : Yields (readFlowPairs (fuel + 1 + 4) false)
          { s with
            tokens := ((second :: others).map pairTokens).flatMap (.separator :: ·) ++
              .flowMappingEnd :: rest
            nodes := s.nodes.withPair first } ids rest nodes := by
        rw [List.map_cons, List.flatMap_cons, List.append_assoc]
        exact hYields
      refine ⟨_, nodes, yields_pairItem h hOthers,
        (s.nodes.within_withPair first).trans hWithin, .cons ?_ hPairs⟩
      exact (s.nodes.hasPair_withPair first).within hWithin

/-- A row is a mapping, which is put into the table in front of its pairs. -/
theorem exists_row (context : Context) {row : Row} (hNonempty : row ≠ [])
    (h : s.tokens = rowTokens row ++ rest) (hDepth : s.depth < maxDepth)
    (hFuel : s.tokens.length + 7 ≤ fuel) :
    ∃ nodes, Yields (read fuel context) s s.nodes.size rest nodes ∧ Within s.nodes nodes ∧
      nodes.HasRow s.nodes.size row := by
  obtain ⟨first, others, rfl⟩ := List.exists_cons_of_ne_nil hNonempty
  have hTokens : rowTokens (first :: others) ++ rest = .flowMappingStart :: (pairTokens first ++
      ((others.map pairTokens).flatMap (.separator :: ·) ++ .flowMappingEnd :: rest)) := by
    simp [rowTokens, Lexer.Brackets.around, Lexer.Brackets.curly]
  rw [hTokens] at h
  rw [h, List.length_cons] at hFuel
  obtain ⟨fuel, rfl⟩ : ∃ less, fuel = less + 2 := ⟨fuel - 2, by omega⟩
  have hLess : (pairTokens first ++ ((others.map pairTokens).flatMap (.separator :: ·) ++
      .flowMappingEnd :: rest)).length + 6 ≤ fuel := by omega
  obtain ⟨ids, nodes, hPairs, hWithin, hRow⟩ := exists_pairs
    (s := { s with tokens := _, nodes := s.nodes.push (mappingNode []), depth := s.depth + 1 })
    rfl hLess
  have hMapping : nodes[s.nodes.size]? = some (mappingNode []) :=
    hWithin _ _ Array.getElem?_push_size
  refine ⟨_, yields_mapping h hDepth hPairs, ?_, ids, Nodes.getElem?_modify_self hMapping _, ?_⟩
  · exact ((Within.push _ _).trans hWithin).modify (Nat.le_refl _) _
  · exact hRow.imp fun ids pair hPair => hPair.modify hMapping (Or.inl rfl) _

theorem exists_rowTokens {row : Row} (hNonempty : row ≠ []) :
    ∃ inner, rowTokens row = .flowMappingStart :: inner ∧ 2 ≤ inner.length := by
  obtain ⟨first, others, rfl⟩ := List.exists_cons_of_ne_nil hNonempty
  refine ⟨_, rfl, ?_⟩
  simp only [List.length_append, length_pairTokens]
  omega

/-- A row and the rows behind it. -/
theorem yields_item {row : Row} (hNonempty : row ≠ []) {tail : List Token} {id : NodeId}
    {ids : List NodeId} (h : s.tokens = rowTokens row ++ tail)
    (hItem : Yields (read fuel .flow) s id rest nodes)
    (hOthers : Yields (readFlowItems fuel false) { s with tokens := rest, nodes } ids more after) :
    Yields (readFlowItem (fuel + 1)) s (id :: ids) more after := by
  have hAll := hItem.bind (fun id => do return id :: (← readFlowItems fuel false))
    (hOthers.bind (fun ids => return id :: ids) rfl)
  obtain ⟨inner, hInner, _⟩ := exists_rowTokens hNonempty
  obtain ⟨tokens, fault, found, anchors, handles, depth⟩ := s
  rw [hInner] at h
  subst h
  exact hAll

/-- The items of a table, up to the bracket behind them. -/
theorem exists_items {first : Row} {others : List Row} (hFirst : first ≠ [])
    (hOthers : ∀ row ∈ others, row ≠ []) (hDepth : s.depth < maxDepth)
    (h : s.tokens = rowTokens first ++
      ((others.map rowTokens).flatMap (.separator :: ·) ++ .flowSequenceEnd :: rest))
    (hFuel : s.tokens.length + 8 ≤ fuel) :
    ∃ ids nodes, Yields (readFlowItem fuel) s ids rest nodes ∧ Within s.nodes nodes ∧
      List.Forall₂ nodes.HasRow ids (first :: others) := by
  induction others generalizing first s fuel with
  | nil =>
      obtain ⟨fuel, rfl⟩ : ∃ less, fuel = less + 2 := ⟨fuel - 2, by omega⟩
      have hEnough : s.tokens.length + 7 ≤ fuel + 1 := by omega
      obtain ⟨nodes, hItem, hWithin, hRow⟩ := exists_row .flow hFirst h hDepth hEnough
      exact ⟨_, nodes, yields_item hFirst h hItem rfl, hWithin, .cons hRow .nil⟩
  | cons second others ih =>
      obtain ⟨fuel, rfl⟩ : ∃ less, fuel = less + 2 := ⟨fuel - 2, by omega⟩
      have hEnough : s.tokens.length + 7 ≤ fuel + 1 := by omega
      obtain ⟨nodes, hItem, hWithin, hRow⟩ := exists_row .flow hFirst h hDepth hEnough
      obtain ⟨inner, hInner, hLength⟩ := exists_rowTokens hFirst
      have hLess : (rowTokens second ++ ((others.map rowTokens).flatMap (.separator :: ·) ++
          .flowSequenceEnd :: rest)).length + 8 ≤ fuel := by
        simp only [h, hInner, List.map_cons, List.flatMap_cons, List.length_append,
          List.length_cons] at hFuel ⊢
        omega
      obtain ⟨hSecond, hRest⟩ := List.forall_mem_cons.mp hOthers
      obtain ⟨ids, after, hYields, hLater, hRows⟩ :=
        ih (s := { s with tokens := _, nodes }) hSecond hRest hDepth rfl hLess
      refine ⟨_, after, yields_item hFirst h hItem ?_, hWithin.trans hLater,
        .cons (hRow.within hLater) hRows⟩
      rw [List.map_cons, List.flatMap_cons, List.append_assoc]
      exact hYields

theorem yields_first {row : Row} (hNonempty : row ≠ []) {tail : List Token} {ids : List NodeId}
    (h : s.tokens = rowTokens row ++ tail) (hItems : Yields (readFlowItem fuel) s ids more nodes) :
    Yields (readFlowItems (fuel + 1) true) s ids more nodes := by
  obtain ⟨inner, hInner, _⟩ := exists_rowTokens hNonempty
  obtain ⟨tokens, fault, found, anchors, handles, depth⟩ := s
  rw [hInner] at h
  subst h
  exact hItems

/-- A table is a sequence, which is put into the table of nodes in front of all its rows. -/
theorem exists_table (context : Context) {rows : List Row} (hNonempty : rows ≠ [])
    (hRows : ∀ row ∈ rows, row ≠ []) (hDepth : s.depth + 1 < maxDepth)
    (h : s.tokens = tableTokens rows ++ rest) (hFuel : s.tokens.length + 9 ≤ fuel) :
    ∃ ids nodes, Yields (read fuel context) s s.nodes.size rest nodes ∧
      nodes[s.nodes.size]? = some (sequenceNode ids) ∧ List.Forall₂ nodes.HasRow ids rows := by
  obtain ⟨first, others, rfl⟩ := List.exists_cons_of_ne_nil hNonempty
  obtain ⟨hFirst, hOthers⟩ := List.forall_mem_cons.mp hRows
  have hTokens : tableTokens (first :: others) ++ rest = .flowSequenceStart :: (rowTokens first ++
      ((others.map rowTokens).flatMap (.separator :: ·) ++ .flowSequenceEnd :: rest)) := by
    simp [tableTokens, Lexer.Brackets.around, Lexer.Brackets.square]
  rw [hTokens] at h
  rw [h, List.length_cons] at hFuel
  obtain ⟨fuel, rfl⟩ : ∃ less, fuel = less + 2 := ⟨fuel - 2, by omega⟩
  have hLess : (rowTokens first ++ ((others.map rowTokens).flatMap (.separator :: ·) ++
      .flowSequenceEnd :: rest)).length + 8 ≤ fuel := by omega
  obtain ⟨ids, nodes, hItems, hWithin, hRows⟩ := exists_items
    (s := { s with tokens := _, nodes := s.nodes.push (sequenceNode []), depth := s.depth + 1 })
    hFirst hOthers hDepth rfl hLess
  have hSequence : nodes[s.nodes.size]? = some (sequenceNode []) :=
    hWithin _ _ Array.getElem?_push_size
  refine ⟨ids, _, yields_sequence h (by omega) (yields_first hFirst rfl hItems),
    Nodes.getElem?_modify_self hSequence _, ?_⟩
  exact hRows.imp fun id row hRow => hRow.modify hSequence rfl _

end

end Node

/-- Rows that were written are the one document of their text. -/
theorem document_table {rows : List Row} (hNonempty : rows ≠ [])
    (hRows : ∀ row ∈ rows, row ≠ [] ∧ ∀ pair ∈ row, IsCommonPair pair) :
    ∃ graph ids, document (Json.write .indented (.arr (rows.map Json.ofRow)) ++ ['\n']) =
        .ok (some graph) ∧
      graph.nodes[graph.root]? = some (sequenceNode ids) ∧
      List.Forall₂ graph.nodes.HasRow ids rows := by
  have hDepth : 0 + 1 < Node.maxDepth := by decide
  have hFuel : (tableTokens rows ++ [Token.streamEnd]).length + 9 ≤
      8 * (tableTokens rows ++ [Token.streamEnd]).length + 16 := by omega
  obtain ⟨ids, nodes, hRead, hRoot, hFound⟩ := Node.exists_table .block
    (s := { tokens := tableTokens rows ++ [.streamEnd], fault := .malformed })
    hNonempty (fun row hRow => (hRows row hRow).1) hDepth rfl hFuel
  refine ⟨{ nodes, root := 0 }, ids, ?_, hRoot, hFound⟩
  have hDocument : Node.Yields
      (Node.readDocument (8 * (tableTokens rows ++ [Token.streamEnd]).length + 16))
      { tokens := tableTokens rows ++ [.streamEnd], fault := .malformed } (some 0) [.streamEnd]
      nodes := by
    obtain ⟨first, others, rfl⟩ := List.exists_cons_of_ne_nil hNonempty
    obtain ⟨inner, hInner⟩ : ∃ inner, tableTokens (first :: others) = .flowSequenceStart :: inner :=
      ⟨_, rfl⟩
    rw [hInner, List.cons_append] at hRead ⊢
    unfold Node.Yields at hRead ⊢
    simp only [Node.readDocument, Node.peek, StateT.run_bind, StateT.run_get, StateT.run_pure,
      pure_bind, if_neg Bool.false_ne_true, hRead]
    rfl
  rw [document, tokenize_table hNonempty hRows]
  simp only [Option.getD_none]
  rw [hDocument]
  rfl

end PoolLogin.Yaml
