import PoolLogin.Text.Word

/-!
Patterns of text. A pattern is tried at one place after another. Of the ways in which it can match
at a place the first counts: earlier choices come before later ones, and a repetition says whether
it goes on as long or ends as soon as it can.
-/

namespace PoolLogin

/-- A pattern of text. -/
inductive Pattern where
  | empty
  /-- One character of a set. -/
  | one (holds : Char → Bool)
  | sequence (first second : Pattern)
  | choice (first second : Pattern)
  /-- A pattern at least `least` and at most `most` times, as often as possible or, if it is not
  greedy, as seldom. -/
  | repeated (least : Nat) (most : Option Nat) (greedy : Bool) (body : Pattern)
  /-- A part of which it is told where it stands. -/
  | marked (body : Pattern)
  /-- The edge of a word, or a place that is none. -/
  | edge (isEdge : Bool)
  /-- A place that does not follow a character of a set. -/
  | notAfter (holds : Char → Bool)

namespace Pattern

/-! ### Putting patterns together -/

def char (c : Char) : Pattern := one (· == c)

def oneOf (text : String) : Pattern := one fun c => text.toList.contains c

def literal (text : String) : Pattern :=
  text.toList.foldr (fun c rest => sequence (char c) rest) empty

def all (patterns : List Pattern) : Pattern := patterns.foldr sequence empty

/-- A pattern or, if it cannot match, one of the others in order. -/
def firstOf (pattern : Pattern) (others : List Pattern) : Pattern :=
  match others with
  | [] => pattern
  | other :: others => choice pattern (firstOf other others)

def optional (pattern : Pattern) : Pattern := repeated 0 (some 1) true pattern

def many (pattern : Pattern) : Pattern := repeated 0 none true pattern

def many1 (pattern : Pattern) : Pattern := repeated 1 none true pattern

def times (least most : Nat) (pattern : Pattern) : Pattern :=
  repeated least (some most) true pattern

/-! ### Matching -/

/-- How far a pattern has matched. -/
structure Progress where
  /-- The character before this place. -/
  before : Option Char
  rest : Text
  position : Nat
  /-- Where the marked parts begin and end, the last one first. -/
  marks : List (Nat × Nat) := []

namespace Progress

def step (p : Progress) (c : Char) (rest : Text) : Progress :=
  { p with before := some c, rest, position := p.position + 1 }

/-- Whether a word begins or ends here. -/
def atEdge (p : Progress) : Bool := p.before.any Text.isWord != p.rest.head?.any Text.isWord

end Progress

/-- What a pattern and what follows it make of a place, if they match. -/
abbrev Matcher := Progress → (Progress → Option Progress) → Option Progress

/-- Match what `body` matches at least `least` and at most `most` times. A repetition that takes no
character is not repeated. -/
def matchRepeated (body : Matcher) (greedy : Bool) :
    (fuel least : Nat) → (most : Option Nat) → Matcher
  | 0, _, _, _, _ => none
  | fuel + 1, least, most, p, next =>
    if 0 < least then
      body p fun q => matchRepeated body greedy fuel (least - 1) (most.map (· - 1)) q next
    else
      let more := fun (_ : Unit) =>
        if most = some 0 then none
        else body p fun q =>
          if q.position = p.position then none
          else matchRepeated body greedy fuel 0 (most.map (· - 1)) q next
      if greedy then (more ()).or (next p)
      else match next p with
        | some result => some result
        | none => more ()

def matchAt : Pattern → Matcher
  | empty => fun p next => next p
  | one holds => fun p next => match p.rest with
    | [] => none
    | c :: rest => if holds c then next (p.step c rest) else none
  | sequence first second => fun p next => matchAt first p fun q => matchAt second q next
  | choice first second => fun p next => match matchAt first p next with
    | some result => some result
    | none => matchAt second p next
  | repeated least most greedy body => fun p next =>
    matchRepeated (matchAt body) greedy (least + p.rest.length + 1) least most p next
  | marked body => fun p next =>
    matchAt body p fun q => next { q with marks := (p.position, q.position) :: q.marks }
  | edge isEdge => fun p next => if p.atEdge == isEdge then next p else none
  | notAfter holds => fun p next => if p.before.any holds then none else next p

/-- The marked parts of all matches from a place on. Matches do not overlap. -/
def marksFrom (pattern : Pattern) : (fuel : Nat) → Progress → List (Nat × Nat)
  | 0, _ => []
  | fuel + 1, p => match pattern.matchAt p some with
    | some q =>
      if q.position = p.position then later fuel p
      else q.marks.reverse ++ marksFrom pattern fuel { q with marks := [] }
    | none => later fuel p
where
  /-- The marked parts of the matches behind a place. -/
  later (fuel : Nat) (p : Progress) : List (Nat × Nat) :=
    match p.rest with
    | [] => []
    | c :: rest => marksFrom pattern fuel (p.step c rest)

/-- Where the marked parts of a pattern stand in a text. -/
def marks (pattern : Pattern) (text : Text) : List (Nat × Nat) :=
  pattern.marksFrom (text.length + 1) { before := none, rest := text, position := 0 }

end Pattern

end PoolLogin
