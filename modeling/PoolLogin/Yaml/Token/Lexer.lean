import PoolLogin.Yaml.Token.Block
import PoolLogin.Yaml.Token.Plain
import PoolLogin.Yaml.Token.Quoted
import PoolLogin.Yaml.Token.Tag

/-!
A YAML text as a sequence of tokens. The tokens say where collections begin and end, also where the
text shows it by indentation only. Whether a node is a key is known when the colon after it comes;
the mark of a key is then put in front of the node. Until then the node is not settled, and a fault
in the text behind it comes before it.
-/

namespace PoolLogin.Yaml

/-- A token. -/
inductive Token where
  | directive (d : Directive)
  | documentStart
  | documentEnd
  | sequenceStart
  | mappingStart
  | blockEnd
  | flowSequenceStart
  | flowSequenceEnd
  | flowMappingStart
  | flowMappingEnd
  | entry
  | separator
  | key
  | value
  | alias (name : Text)
  | anchor (name : Text)
  | tag (t : WrittenTag)
  | scalar (plain : Bool) (text : WideText)
  | streamEnd
  deriving DecidableEq, Repr

namespace Lexer

/-- A place where a key may have started. -/
structure Candidate where
  /-- The brackets around it. -/
  depth : Nat
  /-- The tokens before it. -/
  tokens : Nat
  index : Nat
  line : Nat
  column : Nat
  /-- Whether nothing but a key can stand there. -/
  required : Bool
  deriving Repr

/-- Where the lexer stands. -/
structure State where
  rest : Text
  index : Nat := 0
  line : Nat := 0
  column : Nat := 0
  /-- The brackets that are open. -/
  depth : Nat := 0
  /-- The columns of the open block collections, the innermost first. -/
  indents : List Nat := []
  /-- Whether a key may start here. -/
  keyAllowed : Bool := true
  candidates : List Candidate := []
  /-- The tokens so far, the last one first. -/
  tokens : List Token := []
  /-- The number of tokens so far. -/
  count : Nat := 0
  deriving Repr

namespace State

def inFlow (s : State) : Bool := 0 < s.depth

def step (s : State) (c : Char) (rest : Text) : State :=
  if isBreak c then { s with rest, index := s.index + 1, line := s.line + 1, column := 0 }
  else
    { s with rest, index := s.index + 1
             column := if c = '\uFEFF' then s.column else s.column + 1 }

def advance (s : State) : Nat → State
  | 0 => s
  | n + 1 => match s.rest with
    | [] => s
    | c :: rest => (s.step c rest).advance n

/-- Move on to a later place, given by what is left there. -/
def moveTo (s : State) (rest : Text) : State := s.advance (s.rest.length - rest.length)

def emit (s : State) (token : Token) : State :=
  { s with tokens := token :: s.tokens, count := s.count + 1 }

/-- Put tokens in front of those that came after the first `count`. -/
def insertAt (s : State) (count : Nat) (added : List Token) : State :=
  let later := s.count - count
  { s with tokens := s.tokens.take later ++ added.reverse ++ s.tokens.drop later
           count := s.count + added.length }

/-- Forget the candidates that the text has left behind: a key takes one line and at most 1024
characters. A key that had to come is missed. -/
def dropStale (s : State) : Except Fault State :=
  let isStale := fun c : Candidate => c.line != s.line || c.index + 1024 < s.index
  if s.candidates.any fun c => isStale c && c.required then .error .malformed
  else .ok { s with candidates := s.candidates.filter fun c => !isStale c }

/-- Forget the candidate between the innermost brackets. -/
def dropCandidate (s : State) : Except Fault State :=
  if s.candidates.any fun c => c.depth == s.depth && c.required then .error .malformed
  else .ok { s with candidates := s.candidates.filter fun c => c.depth != s.depth }

/-- Remember that a key may start here. -/
def addCandidate (s : State) : Except Fault State := do
  if s.keyAllowed then
    let required := !s.inFlow && s.indents.head? == some s.column
    let s ← s.dropCandidate
    let candidate : Candidate :=
      { depth := s.depth, tokens := s.count, index := s.index, line := s.line
        column := s.column, required }
    return { s with candidates := candidate :: s.candidates }
  else return s

/-- End the block collections that are indented further than the current column. -/
def unwind (s : State) (column : Option Nat) : State :=
  if s.inFlow then s
  else
    let isDeeper := fun indent => column.all (· < indent)
    let ended := (s.indents.takeWhile isDeeper).length
    { s with indents := s.indents.drop ended
             tokens := List.replicate ended .blockEnd ++ s.tokens
             count := s.count + ended }

/-- Whether a column is indented further than all open collections. -/
def isDeeper (s : State) (column : Nat) : Bool := s.indents.head?.all (· < column)

/-- Open a block collection at the current column unless one is open there. -/
def openBlock (s : State) (token : Token) : State :=
  if s.isDeeper s.column then { s.emit token with indents := s.column :: s.indents } else s

/-- Skip spaces, comments and line breaks. Outside brackets a key may start on a new line. -/
def skipGaps (inComment : Bool) (s : State) : Text → State
  | [] => s
  | c :: rest =>
    let next := s.step c rest
    if isBreak c then skipGaps false { next with keyAllowed := s.keyAllowed || !s.inFlow } rest
    else if inComment || c == ' ' then skipGaps inComment next rest
    else if c = '#' then skipGaps true next rest
    else s

/-- A token of one character that opens or separates nodes. -/
def mark (s : State) (token : Token) : State := (s.advance 1).emit token

def openFlow (s : State) (token : Token) : Except Fault State := do
  let s ← s.addCandidate
  let s := s.mark token
  return { s with depth := s.depth + 1, keyAllowed := true }

def closeFlow (s : State) (token : Token) : Except Fault State := do
  let s ← s.dropCandidate
  if s.depth = 0 then throw .malformed
  return { s.mark token with depth := s.depth - 1, keyAllowed := false }

/-- The mark of an item of a block sequence. -/
def entry (s : State) : Except Fault State := do
  if !s.inFlow && !s.keyAllowed then throw .malformed
  let s := if s.inFlow then s else s.openBlock .sequenceStart
  let s ← s.dropCandidate
  return { s.mark .entry with keyAllowed := true }

def key (s : State) : Except Fault State := do
  if !s.inFlow && !s.keyAllowed then throw .malformed
  let s := if s.inFlow then s else s.openBlock .mappingStart
  let s ← s.dropCandidate
  return { s.mark .key with keyAllowed := !s.inFlow }

/-- The mark of a value. If a candidate stands before it, that node is the key. -/
def value (s : State) : Except Fault State := do
  match s.candidates.find? fun c => c.depth == s.depth with
  | some c =>
    let s := { s with candidates := s.candidates.filter fun c => c.depth != s.depth }
    let s :=
      if !s.inFlow && s.isDeeper c.column then
        { s.insertAt c.tokens [.mappingStart, .key] with indents := c.column :: s.indents }
      else s.insertAt c.tokens [.key]
    return { s.mark .value with keyAllowed := false }
  | none =>
    if !s.inFlow && !s.keyAllowed then throw .malformed
    let s := if s.inFlow then s else s.openBlock .mappingStart
    let s ← s.dropCandidate
    return { s.mark .value with keyAllowed := !s.inFlow }

/-- A node or property that may be a key, or stand in front of one. -/
def node (s : State) (read : Text → Except Fault (Token × Nat)) : Except Fault State := do
  let s ← s.addCandidate
  let (token, size) ← read s.rest
  return { (s.advance size).emit token with keyAllowed := false }

def plain (s : State) : Except Fault State := do
  let s ← s.addCandidate
  let least := (s.indents.head?.map (· + 1)).getD 0
  let scanned := Plain.scan s.inFlow least 0 s.rest
  return { (s.advance scanned.size).emit (.scalar true (.ofText scanned.text)) with
    keyAllowed := scanned.broken }

/-- A block scalar. A key may follow it. -/
def block (s : State) (folded : Bool) (text : Text) : Except Fault State := do
  let s ← s.dropCandidate
  let least := max 1 ((s.indents.head?.map (· + 1)).getD 0)
  let (text, rest) ← Block.scan folded least text
  return { (s.moveTo rest).emit (.scalar false (.ofText text)) with keyAllowed := true }

/-- How many tokens are settled: those in front of the first candidate. -/
def settled (s : State) : Nat := (s.candidates.map Candidate.tokens).foldl min s.count

/-- The start of a line that belongs to the document as a whole. -/
def leaveBlocks (s : State) : Except Fault State := do
  let s ← (s.unwind none).dropCandidate
  return { s with keyAllowed := false }

end State

/-- The scalar that stands after a quote, and how many characters it takes
with that quote. -/
def quoted (read : Text → Except Fault (WideText × Nat)) (text : Text) :
    Except Fault (Token × Nat) := do
  let (scalar, size) ← read text.tail
  return (.scalar false scalar, size + 1)

def single (text : Text) : Except Fault (WideText × Nat) := do
  let (text, size) ← Quoted.single 0 text
  return (.ofText text, size)

/-- The token that `f` makes of what stands after an indicator, and how many characters it takes
with the indicator. -/
def property {α : Type} (f : α → Token) (read : Text → Except Fault (α × Text)) (text : Text) :
    Except Fault (Token × Nat) := do
  let (a, rest) ← read text.tail
  return (f a, text.length - rest.length)

/-- The next token, which starts with `c`. -/
def token (s : State) (c : Char) (rest : Text) : Except Fault State := do
  if s.column = 0 ∧ c = '%' then
    let s ← s.leaveBlocks
    let (d, rest) ← directive rest
    return (s.moveTo rest).emit (.directive d)
  else if s.column = 0 ∧ atDocumentMark '-' s.rest then
    return ((← s.leaveBlocks).advance 3).emit .documentStart
  else if s.column = 0 ∧ atDocumentMark '.' s.rest then
    return ((← s.leaveBlocks).advance 3).emit .documentEnd
  else match c with
  | '[' => s.openFlow .flowSequenceStart
  | '\x7b' => s.openFlow .flowMappingStart
  | ']' => s.closeFlow .flowSequenceEnd
  | '\x7d' => s.closeFlow .flowMappingEnd
  | ',' => return (← { s with keyAllowed := true }.dropCandidate).mark .separator
  | '*' => s.node (property .alias anchorName)
  | '&' => s.node (property .anchor anchorName)
  | '!' => s.node (property .tag writtenTag)
  | '\x27' => s.node (quoted single)
  | '"' => s.node (quoted (Quoted.double 0))
  | _ =>
    if c = '-' ∧ atGap rest then s.entry
    else if c = '?' ∧ (s.inFlow ∨ atGap rest) then s.key
    else if c = ':' ∧ (s.inFlow ∨ atGap rest) then s.value
    else if c = '|' ∧ !s.inFlow then s.block false rest
    else if c = '>' ∧ !s.inFlow then s.block true rest
    else if Plain.starts s.inFlow s.rest then s.plain
    else throw .malformed

/-- Read one more token and the blocks that end in front of it. A text that has ended has none. -/
def next (s : State) : Except Fault (Option State) := do
  let s ← (State.skipGaps false s s.rest).dropStale
  match s.rest with
  | [] =>
    let _ ← (s.unwind none).dropCandidate
    return none
  | c :: rest => return some (← (← token (s.unwind (some s.column)) c rest).dropStale)

/-- The last tokens of a text that has ended. -/
def finish (s : State) : State :=
  let s := State.skipGaps false s s.rest
  (s.unwind none).emit .streamEnd

/-- The tokens of a text and the fault that ends them. If there is one, no token is left that was
not settled when the reading of the faulty part began. -/
def tokens : (fuel : Nat) → State → List Token × Option Fault
  | 0, s => (s.tokens.reverse.take s.settled, some .malformed)
  | fuel + 1, s => match next s with
    | .ok (some next) => tokens fuel next
    | .ok none => ((finish s).tokens.reverse, none)
    | .error fault => (s.tokens.reverse.take s.settled, some fault)

end Lexer

/-- The tokens of a text, and the fault that ends them, if there is one. A byte-order mark at the
start of a text is passed over. -/
def tokenize (text : Text) : List Token × Option Fault :=
  if !text.all isAllowed then ([], some .malformed)
  else
    let start : Lexer.State := { rest := text }
    let start := match text with
      | '\uFEFF' :: rest => start.step '\uFEFF' rest
      | _ => start
    Lexer.tokens (text.length + 2) start

end PoolLogin.Yaml
