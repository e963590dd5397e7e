import PoolLogin.Yaml.Node

/-!
Merging. The pairs of other mappings take the place of the keys that ask for them, in front of the
pairs that a mapping has of its own, so that its own count more. Merging changes the nodes
themselves, and whoever refers to one of them sees the change.
-/

namespace PoolLogin.Yaml

namespace Nodes

def node (nodes : Nodes) (id : NodeId) : Node := nodes[id]?.getD .empty

def pairCount (nodes : Nodes) : Nat :=
  nodes.foldl (fun n node => match node.content with
    | .mapping pairs => n + pairs.length
    | _ => n) 0

end Nodes

namespace Merge

/-- A step that may change the nodes of a document. -/
abbrev Step := StateT Nodes (Except Fault)

/-- The pairs of a mapping; any other node has none. -/
def pairs (id : NodeId) : Step (List (NodeId × NodeId)) := do
  match ((← get).node id).content with
  | .mapping pairs => return pairs
  | _ => return []

def setPairs (id : NodeId) (pairs : List (NodeId × NodeId)) : Step Unit :=
  modify fun nodes => nodes.modify id fun node => { node with content := .mapping pairs }

def isMapping (id : NodeId) : Step Bool := do
  match ((← get).node id).content with
  | .mapping _ => return true
  | _ => return false

/-- A key of the type of a standing value becomes a text. -/
def plainKey (id : NodeId) : Step Unit :=
  modify fun nodes => nodes.modify id fun node =>
    if node.tag = .value then { node with tag := .string } else node

/-- Merge into a mapping what its keys from `index` on ask for. `merged` is what those before have
brought. Of several mappings under one key the first counts most, so it comes last. Every round
takes a key away. -/
def mergeFrom : (fuel : Nat) → NodeId → (index : Nat) → (merged : List (NodeId × NodeId)) →
    Step Unit
  | 0, _, _, _ => throw .malformed
  | fuel + 1, id, index, merged => do
    let all ← pairs id
    let nodes ← get
    let (own, rest) := (all.drop index).span fun pair => (nodes.node pair.1).tag != .merge
    own.forM fun pair => plainKey pair.1
    match rest with
    | [] => if merged.isEmpty then return () else setPairs id (merged ++ all)
    | (_, source) :: rest => do
      setPairs id (all.take index ++ own ++ rest)
      let brought ← match (nodes.node source).content with
        | .mapping _ => do
          mergeFrom fuel source 0 []
          pairs source
        | .sequence items => do
          let lists ← items.mapM fun item => do
            if !(← isMapping item) then throw .malformed
            mergeFrom fuel item 0 []
            pairs item
          pure lists.reverse.flatten
        | .scalar _ => throw .malformed
      mergeFrom fuel id (index + own.length) (merged ++ brought)

/-- Merge into a mapping what its keys ask for. -/
def merge (id : NodeId) : Step Unit := do
  mergeFrom ((← get).pairCount + 1) id 0 []

end Merge

end PoolLogin.Yaml
