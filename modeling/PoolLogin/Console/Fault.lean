import PoolLogin.Text.Grapheme
import PoolLogin.Text.Quoted

/-!
Why a console cannot print a text. It writes UTF-8, which has no place for surrogates: a text that
holds some is set with private characters standing in for them, and then not printed; what is told
is where the first of them would have stood.
-/

namespace PoolLogin.Console

/-- Why a text cannot be printed. -/
inductive Fault where
  /-- A line is too wide and cannot be cut. -/
  | cut (fault : Text.CutFault)
  /-- There are surrogates: the first of them, where it stands, and how many stand side by side
  there. -/
  | surrogates (first : CodePoint) (position count : Nat)
  deriving DecidableEq, Repr

namespace Fault

def placeText (first : CodePoint) (position count : Nat) : Text :=
  let start := Numeral.natural position
  if count ≤ 1 then
    "character '".toList ++ Text.numericEscape first.toNat ++ "' in position ".toList ++ start
  else
    "characters in position ".toList ++ start ++ ['-'] ++ Numeral.natural (position + count - 1)

def message : Fault → Text
  | cut .noCells => "division by zero".toList
  | cut .tooFewCells => "list index out of range".toList
  | surrogates first position count =>
    "'utf-8' codec can't encode ".toList ++ placeText first position count ++
      (": surrogates not allowed\n" ++
        "*** You may need to add PYTHONIOENCODING=utf-8 to your environment ***").toList

end Fault

/-- A block of private characters, one for every surrogate, by the number of its first. -/
abbrev StandIns := Nat

namespace StandIns

/-- The blocks that can stand in for surrogates. -/
def all : List StandIns := (List.range 31).map fun n => 0xF0000 + n * 0x800

/-- Whether a character stands in for a surrogate. -/
def holds (block : StandIns) (c : Char) : Bool := block ≤ c.toNat && c.toNat < block + 0x800

/-- A block of which no character occurs in the texts. -/
def forTexts (texts : List WideText) : StandIns :=
  (all.find? fun block => texts.all fun text => text.all fun c =>
    !(c.char?.any (holds block))).getD 0xF0000

/-- A text with characters in place of its surrogates. -/
def mask (block : StandIns) (text : WideText) : Text :=
  text.map fun
    | .char c => c
    | .surrogate n => Char.ofNat (block + n.val)

def check (block : StandIns) (text : Text) : Except Fault Text :=
  let (before, rest) := text.span fun c => !holds block c
  match rest with
  | [] => .ok text
  | c :: _ =>
    .error (.surrogates (.ofNat (CodePoint.firstSurrogate + (c.toNat - block))) before.length
      (rest.takeWhile (holds block)).length)

end StandIns

/-- What `print` makes of texts, unless surrogates would be printed. -/
def printWide (texts : List WideText) (print : List Text → Except Text.CutFault Text) :
    Except Fault Text :=
  match texts.mapM WideText.text? with
  | some texts => (print texts).mapError .cut
  | none => do
    let block := StandIns.forTexts texts
    block.check (← (print (texts.map block.mask)).mapError .cut)

end PoolLogin.Console
