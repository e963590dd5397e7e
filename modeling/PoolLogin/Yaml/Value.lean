import PoolLogin.Datum.Document
import PoolLogin.Datum.SetOrder
import PoolLogin.Yaml.Merge
import PoolLogin.Yaml.ScalarValue

/-!
The values of a YAML document as a table. A node has one value, and whoever refers to the node
refers to that value, so a collection can lie in itself. Scalars get their values where they are
met. Collections are there from then on, but filled round by round, those that were met in one
round in the next; so of several faults the one nearest to the root counts, and of equally near ones
the first.
-/

namespace PoolLogin.Yaml

/-- The place of a value in the table of its document. -/
abbrev ValueId := Nat

/-- A value that refers to others by their places. -/
inductive Cell where
  | scalar (datum : Datum)
  | list (items : List ValueId)
  | pair (first second : ValueId)
  | map (entries : List (ValueId × ValueId))
  | set (items : List ValueId)
  deriving Repr, Inhabited

abbrev Cells := Array Cell

namespace Cells

def cell (cells : Cells) (id : ValueId) : Cell := cells[id]?.getD (.scalar .null)

/-- The scalar at a place. A collection has none. -/
def scalar (cells : Cells) (id : ValueId) : Datum :=
  match cells.cell id with
  | .scalar datum => datum
  | _ => .null

/-- Whether the value at a place can be a key. Collections cannot. -/
def isKey (cells : Cells) (id : ValueId) : Bool :=
  match cells.cell id with
  | .scalar _ => true
  | _ => false

/-- What a value looks like inside the collections at the places `above`. A collection that it lies
in is cut off. -/
def viewIn (cells : Cells) : (fuel : Nat) → (above : List ValueId) → ValueId → Datum
  | 0, _, _ => .null
  | fuel + 1, above, id =>
    let inside := viewIn cells fuel (id :: above)
    match cells.cell id with
    | .scalar datum => datum
    | .list items => if above.contains id then .inner .list else .list (items.map inside)
    | .pair first second =>
      if above.contains id then .inner .pair else .pair (inside first) (inside second)
    | .map entries =>
      if above.contains id then .inner .map
      else .map (entries.map fun (key, value) => (inside key, inside value))
    | .set items => .set (items.map inside)

def view (cells : Cells) (id : ValueId) : Datum := cells.viewIn (cells.size + 1) [] id

/-- A value as an item of a case file. -/
def item (cells : Cells) (id : ValueId) : Item ValueId :=
  match cells.cell id with
  | .map entries => .map id (entries.map fun (key, value) => (cells.scalar key, value))
  | _ => .other id

end Cells

/-- The values of a document, and the root among them. -/
structure Values where
  cells : Cells
  root : ValueId

/-- What a document holds as a case file. -/
def Values.document (values : Values) : Document ValueId :=
  match values.cells.cell values.root with
  | .scalar .null => .nothing
  | .list items => .list (items.map values.cells.item)
  | _ => .other

namespace Values

/-- What has been made of the nodes of a document. The first value of all is the one that stands
for no number and is written like that. -/
structure Making where
  nodes : Nodes
  cells : Cells := #[.scalar (.float .nan)]
  /-- The values of the nodes that were met. -/
  made : Array (Option ValueId)
  /-- The collections that are still to be filled, the last one first. -/
  waiting : List (NodeId × ValueId) := []

abbrev Maker := StateT Making (Except Fault)

def node (id : NodeId) : Maker Node := return (← get).nodes.node id

def add (cell : Cell) : Maker ValueId := do
  let id := (← get).cells.size
  modify fun s => { s with cells := s.cells.push cell }
  return id

/-- The text of a node that is read as a scalar: its own, or that of the value under the key `=`. -/
def textOf (nodes : Nodes) : (fuel : Nat) → NodeId → Except Fault WideText
  | 0, _ => .error .endless
  | fuel + 1, id => match (nodes.node id).content with
    | .scalar text => .ok text
    | .sequence _ => .error .malformed
    | .mapping pairs =>
      match pairs.find? fun pair => (nodes.node pair.1).tag == .value with
      | some (_, value) => textOf nodes fuel value
      | none => .error .malformed

/-- The value of a node that is read as a scalar. -/
def makeScalar (id : NodeId) : Maker ValueId := do
  let nodes := (← get).nodes
  let node := nodes.node id
  if !node.tag.isScalar then throw .malformed
  let text ← textOf nodes (nodes.size + 1) id
  match node.tag, node.content with
  | .timestamp, .mapping _ => throw .timestampMapping
  | tag, _ =>
    let datum ← Scalar.value tag text
    if tag = .float ∧ Scalar.isNaN text then return 0 else add (.scalar datum)

def makeLater (id : NodeId) (cell : Cell) : Maker ValueId := do
  let value ← add cell
  modify fun s => { s with waiting := (id, value) :: s.waiting }
  return value

def make (id : NodeId) : Maker ValueId := do
  match (← get).made[id]? with
  | some (some value) => return value
  | _ =>
    let value ← match (← node id).tag with
      | .sequence => makeLater id (.list [])
      | .orderedMap => makeLater id (.list [])
      | .pairs => makeLater id (.list [])
      | .mapping => makeLater id (.map [])
      | .set => makeLater id (.set [])
      | _ => makeScalar id
    modify fun s => { s with made := s.made.setIfInBounds id (some value) }
    return value

/-- The pair of a node that must be a mapping of one pair. -/
def makePair (id : NodeId) : Maker ValueId := do
  match (← node id).content with
  | .mapping [(key, value)] => do
    let key ← make key
    let value ← make value
    add (.pair key value)
  | _ => throw .malformed

/-- Whether two values are the same key. The same value is the same key, even if it equals
nothing. -/
def sameKey (cells : Cells) (a b : ValueId) : Bool :=
  a == b || cells.scalar a == cells.scalar b

/-- Give a key a value. A key that is already there keeps its place and its spelling. -/
def putEntry (cells : Cells) (key value : ValueId) :
    List (ValueId × ValueId) → List (ValueId × ValueId)
  | [] => [(key, value)]
  | (k, v) :: rest =>
    if sameKey cells k key then (k, value) :: rest else (k, v) :: putEntry cells key value rest

/-- The entries of a mapping, after merging. -/
def makeEntries (id : NodeId) : Maker (List (ValueId × ValueId)) := do
  match (← node id).content with
  | .mapping _ => do
    let s ← get
    let (_, nodes) ← (Merge.merge id).run s.nodes
    set { s with nodes }
    match (nodes.node id).content with
    | .mapping pairs =>
      pairs.foldlM (fun entries (key, value) => do
        let key ← make key
        if !(← get).cells.isKey key then throw .malformed
        let value ← make value
        return putEntry (← get).cells key value entries) []
    | _ => throw .malformed
  | _ => throw .malformed

def fill (id : NodeId) (value : ValueId) : Maker Unit := do
  let node ← node id
  let cell ← match node.tag, node.content with
    | .sequence, .sequence items => Cell.list <$> items.mapM make
    | .orderedMap, .sequence items => Cell.list <$> items.mapM makePair
    | .pairs, .sequence items => Cell.list <$> items.mapM makePair
    | .mapping, _ => Cell.map <$> makeEntries id
    | .set, _ => do
      let items := (← makeEntries id).map (·.1)
      let cells := (← get).cells
      pure (Cell.set (Datum.setOrder cells.scalar items))
    | _, _ => throw .malformed
  modify fun s => { s with cells := s.cells.setIfInBounds value cell }

/-- Fill the collections that were met, round by round. -/
def fillAll : (rounds : Nat) → Maker Unit
  | 0 => throw .malformed
  | rounds + 1 => do
    match (← get).waiting with
    | [] => return ()
    | waiting => do
      modify fun s => { s with waiting := [] }
      waiting.reverse.forM fun (id, value) => fill id value
      fillAll rounds

/-- The values of the nodes of a document. -/
def ofGraph (graph : Graph) : Except Fault Values := do
  let size := graph.nodes.size
  let start : Making := { nodes := graph.nodes, made := Array.replicate size none }
  let (root, s) ← (make graph.root).run start
  let (_, s) ← (fillAll (size + 1)).run s
  return { cells := s.cells, root }

end Values

/-- Read the one document of a text. A text without a document has the value null. -/
def read (text : Text) : Except Fault Values := do
  match ← document text with
  | none => return { cells := #[.scalar .null], root := 0 }
  | some graph => Values.ofGraph graph

end PoolLogin.Yaml
