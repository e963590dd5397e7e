import PoolLogin.Entries
import PoolLogin.Yaml.Scalar
import PoolLogin.Yaml.Token.Lexer

/-!
A YAML document as a table of nodes with their types. A node refers to others by their places in
the table, and an alias is a second reference to the same node, also from inside it. Tokens are
asked for one at a time, so that of several faults in a text the one counts that is met first.
-/

namespace PoolLogin.Yaml

/-- The place of a node in the table of its document. -/
abbrev NodeId := Nat

/-- What a node holds. -/
inductive Content where
  | scalar (text : WideText)
  | sequence (items : List NodeId)
  | mapping (pairs : List (NodeId × NodeId))
  deriving Repr, Inhabited

/-- A node. -/
structure Node where
  tag : Tag
  content : Content
  deriving Repr, Inhabited

abbrev Nodes := Array Node

namespace Node

def empty : Node := { tag := .null, content := .scalar [] }

abbrev Handles := Entries Text Text

def standardHandles : Handles :=
  [(['!'], ['!']), (['!', '!'], Tag.namespaceText)]

/-- What has been read, and what is left to be read. -/
structure Reading where
  tokens : List Token
  /-- Why no token follows the last one. -/
  fault : Fault
  nodes : Nodes := #[]
  anchors : Entries Text NodeId := []
  handles : Handles := standardHandles
  /-- The collections around what is read next. -/
  depth : Nat := 0

abbrev Reader := StateT Reading (Except Fault)

def peek : Reader Token := do
  match (← get).tokens with
  | token :: _ => return token
  | [] => throw (← get).fault

def skip : Reader Unit := modify fun s => { s with tokens := s.tokens.tail }

/-- The most collections that can lie in one another. Reading goes down two levels with each of
them; of the thousand levels that there are, whoever has a file read stands on the first twenty. -/
def maxDepth : Nat := 490

def inside {α : Type} (read : Reader α) : Reader α := do
  let depth := (← get).depth
  if maxDepth ≤ depth then throw .tooDeep
  modify fun s => { s with depth := depth + 1 }
  let result ← read
  modify fun s => { s with depth }
  return result

def add (node : Node) : Reader NodeId := do
  let id := (← get).nodes.size
  modify fun s => { s with nodes := s.nodes.push node }
  return id

def fill (id : NodeId) (content : Content) : Reader Unit :=
  modify fun s => { s with nodes := s.nodes.modify id fun node => { node with content } }

/-- The anchor and the tag in front of a node. -/
structure Properties where
  anchor : Option Text := none
  tag : Option WrittenTag := none

namespace Properties

def readAnchor : Reader (Option Text) := do
  match ← peek with
  | .anchor name => do skip; return some name
  | _ => return none

def readTag : Reader (Option WrittenTag) := do
  match ← peek with
  | .tag tag => do skip; return some tag
  | _ => return none

/-- Read an anchor and a tag in either order. -/
def read : Reader Properties := do
  match ← readAnchor with
  | some anchor => return { anchor := some anchor, tag := ← readTag }
  | none => match ← readTag with
    | some tag => return { anchor := ← readAnchor, tag := some tag }
    | none => return {}

/-- Whether there is neither an anchor nor a tag. -/
def isEmpty (p : Properties) : Bool := p.anchor.isNone && p.tag.isNone

/-- The tag with its handle replaced by what it stands for. -/
def fullTag (p : Properties) : Reader (Option Text) := do
  match p.tag with
  | none => return none
  | some { handle := none, suffix } => return some suffix
  | some { handle := some handle, suffix } =>
    match (← get).handles.get? handle with
    | some meaning => return some (meaning ++ suffix)
    | none => throw .malformed

/-- The type of a scalar. The tag `!` asks for the type of its form, as does the lack of a tag if
there are no quotes. -/
def scalarTag (full : Option Text) (plain : Bool) (text : WideText) : Tag :=
  match full with
  | none => if plain then Scalar.form text else .string
  | some ['!'] => Scalar.form text
  | some name => .ofText name

def collectionTag (full : Option Text) (standard : Tag) : Tag :=
  match full with
  | none => standard
  | some ['!'] => standard
  | some name => .ofText name

end Properties

/-- Put a node with an anchor into the table. An anchor has one node only. -/
def define (anchor : Option Text) (node : Node) : Reader NodeId := do
  match anchor with
  | none => add node
  | some name =>
    if ((← get).anchors.get? name).isSome then throw .malformed
    let id ← add node
    modify fun s => { s with anchors := s.anchors.put name id }
    return id

/-- Whether a token ends an empty item of a block sequence. -/
def endsItem : Token → Bool
  | .entry => true
  | .blockEnd => true
  | _ => false

/-- Whether a token ends an empty item of a sequence without indentation. -/
def endsLooseItem : Token → Bool
  | .entry => true
  | .key => true
  | .value => true
  | .blockEnd => true
  | _ => false

/-- Whether a token ends an empty key or value of a block mapping. -/
def endsBlockPart : Token → Bool
  | .key => true
  | .value => true
  | .blockEnd => true
  | _ => false

/-- Whether a token ends an empty key or value between brackets that `closing` ends. -/
def endsFlowPart (closing : Token) (token : Token) : Bool := token == .separator || token == closing

/-- What encloses a node: brackets, a block, or a key or value of a block mapping, where the items
of a sequence need no further indentation. -/
inductive Context where
  | flow
  | block
  | blockPart
  deriving DecidableEq

/-- An empty node, which needs an anchor or a tag. -/
def readEmpty (full : Option Text) (properties : Properties) : Reader NodeId := do
  if properties.isEmpty then throw .malformed
  define properties.anchor
    { tag := Properties.scalarTag full full.isNone [], content := .scalar [] }

mutual

def read : (fuel : Nat) → Context → Reader NodeId
  | 0, _ => throw .malformed
  | fuel + 1, context => do
    match ← peek with
    | .alias name => do
      skip
      match (← get).anchors.get? name with
      | some id => return id
      | none => throw .malformed
    | _ => do
      let properties ← Properties.read
      let full ← properties.fullTag
      let sequence : Node :=
        { tag := Properties.collectionTag full .sequence, content := .sequence [] }
      let mapping : Node :=
        { tag := Properties.collectionTag full .mapping, content := .mapping [] }
      match ← peek with
      | .scalar plain text => do
        skip
        define properties.anchor
          { tag := Properties.scalarTag full plain text, content := .scalar text }
      | .flowSequenceStart => do
        let id ← define properties.anchor sequence
        skip
        fill id (.sequence (← inside (readFlowItems fuel true)))
        return id
      | .flowMappingStart => do
        let id ← define properties.anchor mapping
        skip
        fill id (.mapping (← inside (readFlowPairs fuel true)))
        return id
      | .sequenceStart => do
        if context = .flow then readEmpty full properties
        else
          let id ← define properties.anchor sequence
          skip
          fill id (.sequence (← inside (readItems fuel false)))
          return id
      | .mappingStart => do
        if context = .flow then readEmpty full properties
        else
          let id ← define properties.anchor mapping
          skip
          fill id (.mapping (← inside (readPairs fuel)))
          return id
      | .entry => do
        if context = .blockPart then
          let id ← define properties.anchor sequence
          fill id (.sequence (← inside (readItems fuel true)))
          return id
        else readEmpty full properties
      | _ => readEmpty full properties

/-- A node, or an empty one if the next token ends it. -/
def readUnless (ends : Token → Bool) : (fuel : Nat) → Context → Reader NodeId
  | 0, _ => throw .malformed
  | fuel + 1, context => do
    if ends (← peek) then add empty else read fuel context

/-- The value of a key, which may be missing. -/
def readMappingValue (ends : Token → Bool) : (fuel : Nat) → Context → Reader NodeId
  | 0, _ => throw .malformed
  | fuel + 1, context => do
    match ← peek with
    | .value => do
      skip
      readUnless ends fuel context
    | _ => add empty

/-- The items of a block sequence. A loose one has no indentation of its own, and ends where no
item follows. -/
def readItems : (fuel : Nat) → (loose : Bool) → Reader (List NodeId)
  | 0, _ => throw .malformed
  | fuel + 1, loose => do
    match ← peek with
    | .entry => do
      skip
      let item ← readUnless (if loose then endsLooseItem else endsItem) fuel .block
      return item :: (← readItems fuel loose)
    | .blockEnd => do
      if !loose then skip
      return []
    | _ => if loose then return [] else throw .malformed

def readPairs : (fuel : Nat) → Reader (List (NodeId × NodeId))
  | 0 => throw .malformed
  | fuel + 1 => do
    match ← peek with
    | .key => do
      skip
      let key ← readUnless endsBlockPart fuel .blockPart
      let value ← readMappingValue endsBlockPart fuel .blockPart
      return (key, value) :: (← readPairs fuel)
    | .blockEnd => do
      skip
      return []
    | _ => throw .malformed

/-- A key between brackets that `closing` ends, and its value. -/
def readFlowPair (closing : Token) : (fuel : Nat) → Reader (NodeId × NodeId)
  | 0 => throw .malformed
  | fuel + 1 => do
    let key ← readUnless (fun token => token == .value || endsFlowPart closing token) fuel .flow
    let value ← readMappingValue (endsFlowPart closing) fuel .flow
    return (key, value)

/-- The items of a sequence between brackets. A key makes a mapping of one pair. -/
def readFlowItems : (fuel : Nat) → (first : Bool) → Reader (List NodeId)
  | 0, _ => throw .malformed
  | fuel + 1, first => do
    match ← peek with
    | .flowSequenceEnd => do
      skip
      return []
    | .separator => if first then readFlowItem fuel else do
      skip
      readFlowItem fuel
    | _ => if first then readFlowItem fuel else throw .malformed

/-- An item of a sequence between brackets, unless the sequence ends here, and those after it. -/
def readFlowItem : (fuel : Nat) → Reader (List NodeId)
  | 0 => throw .malformed
  | fuel + 1 => do
    match ← peek with
    | .flowSequenceEnd => do
      skip
      return []
    | .key => do
      let id ← add { tag := .mapping, content := .mapping [] }
      skip
      fill id (.mapping [← inside (readFlowPair .flowSequenceEnd fuel)])
      return id :: (← readFlowItems fuel false)
    | _ => do
      let item ← read fuel .flow
      return item :: (← readFlowItems fuel false)

/-- The pairs of a mapping between brackets. A node alone is a key without a value. -/
def readFlowPairs : (fuel : Nat) → (first : Bool) → Reader (List (NodeId × NodeId))
  | 0, _ => throw .malformed
  | fuel + 1, first => do
    match ← peek with
    | .flowMappingEnd => do
      skip
      return []
    | .separator => if first then readFlowPairItem fuel else do
      skip
      readFlowPairItem fuel
    | _ => if first then readFlowPairItem fuel else throw .malformed

/-- A pair of a mapping between brackets, unless the mapping ends here, and those after it. -/
def readFlowPairItem : (fuel : Nat) → Reader (List (NodeId × NodeId))
  | 0 => throw .malformed
  | fuel + 1 => do
    match ← peek with
    | .flowMappingEnd => do
      skip
      return []
    | .key => do
      skip
      let pair ← readFlowPair .flowMappingEnd fuel
      return pair :: (← readFlowPairs fuel false)
    | _ => do
      let key ← read fuel .flow
      let _ ← peek
      let value ← add empty
      return (key, value) :: (← readFlowPairs fuel false)

end

/-- The directives in front of a document. At most one says the version, which must be 1, and no
handle is given two meanings. -/
def readDirectives : (fuel : Nat) → (version : Bool) → Handles → Reader Handles
  | 0, _, _ => throw .malformed
  | fuel + 1, version, handles => do
    match ← peek with
    | .directive d => do
      skip
      match d with
      | .version major _ =>
        if version || major != 1 then throw .malformed
        readDirectives fuel true handles
      | .handle name meaning =>
        if (handles.get? name).isSome then throw .malformed
        readDirectives fuel version (handles.put name meaning)
      | .other => readDirectives fuel version handles
    | _ => return handles

/-- The handles that hold in a document: its own, and the standard ones that it does not change. -/
def withStandard (handles : Handles) : Handles :=
  handles ++ standardHandles.filter fun entry => (handles.get? entry.1).isNone

/-- The directives of a document and its mark. -/
def readStart (fuel : Nat) : Reader Unit := do
  let handles ← readDirectives fuel false []
  modify fun s => { s with handles := withStandard handles }
  match ← peek with
  | .documentStart => skip
  | _ => throw .malformed

/-- Whether a token ends a document after its mark. -/
def endsDocument : Token → Bool
  | .directive _ => true
  | .documentStart => true
  | .documentEnd => true
  | .streamEnd => true
  | _ => false

def skipEnds : (fuel : Nat) → Reader Unit
  | 0 => throw .malformed
  | fuel + 1 => do
    match ← peek with
    | .documentEnd => do
      skip
      skipEnds fuel
    | _ => return ()

/-- The root of the one document of a text, if there is one. After it the text must end. -/
def readDocument (fuel : Nat) : Reader (Option NodeId) := do
  match ← peek with
  | .streamEnd => return none
  | token => do
    let explicit := match token with
      | .directive _ => true
      | .documentStart => true
      | _ => false
    let root ←
      if explicit then do
        readStart fuel
        readUnless endsDocument fuel .block
      else read fuel .block
    skipEnds fuel
    match ← peek with
    | .streamEnd => return some root
    | _ => do
      readStart fuel
      throw .malformed

end Node

/-- The nodes of a document, and the root among them. -/
structure Graph where
  nodes : Nodes
  root : NodeId

/-- The one document of a text, if there is one. -/
def document (text : Text) : Except Fault (Option Graph) := do
  let (tokens, fault) := tokenize text
  let start : Node.Reading := { tokens, fault := fault.getD .malformed }
  let (root, reading) ← (Node.readDocument (8 * tokens.length + 16)).run start
  return root.map fun root => { nodes := reading.nodes, root }

end PoolLogin.Yaml
