import PoolLogin.Text.Numeral
import PoolLogin.Text.Pattern

/-!
The parts of a line that a console sets off from the rest: numbers, paths, quoted texts and the
like. Without colours they do not show, but a line is measured between their ends, and there a
character does not act on its neighbour.
-/

namespace PoolLogin.Console.Highlight

open Pattern

def digit : Pattern := one fun c => '0' ≤ c && c ≤ '9'

/-- A decimal digit of any script. -/
def anyDigit : Pattern := one fun c =>
  let d := Numeral.latin (.char c)
  '0' ≤ d && d ≤ '9'

def hexDigit : Pattern := one fun c => ((Numeral.asciiDigit? c).filter (· < 16)).isSome

/-- A character of a name of a file. -/
def nameChar : Pattern := one fun c => Text.isWord c || c == '-' || c == '.' || c == '+'

/-- An element with its name and what it holds. -/
def element : Pattern :=
  all [marked (char '<'),
    marked (many (one fun c => Text.isWord c || "-.:|".toList.contains c)),
    marked (many (one fun _ => true)), marked (char '>')]

/-- A name and the value that it gets. -/
def assignment : Pattern :=
  let word := one Text.isWord
  all [marked (times 1 50 word), char '=',
    optional (marked (all [optional (char '"'), many1 word, optional (char '"')]))]

def bracket : Pattern := marked (oneOf "][\x7b\x7d()")

def fourNumbers : Pattern :=
  let number := times 1 3 digit
  marked (all [number, char '.', number, char '.', number, char '.', number])

/-- Up to eight groups of digits of base sixteen between colons. -/
def eightGroups : Pattern :=
  let group := times 1 4 hexDigit
  marked (all [times 1 7 (all [group, char ':', optional (char ':')]), group])

/-- Groups of digits of base sixteen: `count` pairs between hyphens or colons, or half as many
groups of four between points. -/
def groups (count : Nat) : Pattern :=
  let pairs := fun separator =>
    all [times (count - 1) (count - 1) (all [times 1 2 hexDigit, char separator]),
      times 1 2 hexDigit]
  let fours := count / 2 - 1
  marked (firstOf (pairs '-')
    [pairs ':',
      all [times fours fours (all [times 4 4 hexDigit, char '.']), times 4 4 hexDigit]])

/-- Five groups of digits of base sixteen between hyphens. -/
def fiveGroups : Pattern :=
  let group := fun n => times n n hexDigit
  marked (all [group 8, char '-', group 4, char '-', group 4, char '-', group 4, char '-', group 12])

def call : Pattern :=
  all [marked (repeated 0 none false (one fun c => Text.isWord c || c == '.')), char '(']

def constant (word : String) : Pattern := all [edge true, marked (literal word), edge true]

def sign : Pattern := oneOf "-+"

/-- Digits, perhaps with a point, and perhaps with an exponent of which the digits are taken as
`greedy` says. -/
def decimal (greedy : Bool) : Pattern :=
  all [many1 digit, optional (char '.'), many digit,
    optional (all [char 'e', optional sign, repeated 1 none greedy anyDigit])]

def complexNumber : Pattern :=
  marked (all [notAfter Text.isWord, optional (char '-'), decimal false,
    optional (all [sign, decimal true]), char 'j'])

def number : Pattern :=
  marked (choice
    (all [notAfter Text.isWord, optional (char '-'), decimal false, edge true])
    (all [literal "0x", many hexDigit]))

/-- A path and the name at its end. -/
def path : Pattern :=
  all [marked (all [edge false, many (all [char '/', many1 nameChar]), char '/']),
    optional (marked (many nameChar))]

/-- A text between quotes, up to the first of them that no backslash stands before. -/
def quotedBy (quote : String) : Pattern :=
  all [optional (char 'b'), literal quote, repeated 0 none false (one (· != '\n')),
    notAfter (· == '\\'), literal quote]

def quoted : Pattern :=
  all [notAfter fun c => c == '\\' || Text.isWord c,
    marked (firstOf (quotedBy "\x27\x27\x27")
      [quotedBy "\x27", quotedBy "\"\"\"", quotedBy "\""])]

/-- The values that are set off. Where several begin at one place, the first counts. -/
def value : Pattern :=
  firstOf fourNumbers
    [eightGroups, groups 8, groups 6, fiveGroups, call, constant "True", constant "False",
      constant "None", marked (literal "..."), complexNumber, number, path, quoted]

/-- All that is set off. Parts of different kinds may overlap. -/
def patterns : List Pattern := [element, assignment, bracket, value]

/-- The characters of a text, each with whether a part that is set off begins or ends in front of
it. -/
def cuts (text : Text) : List (Char × Bool) :=
  let places := patterns.flatMap fun pattern => (pattern.marks text).flatMap fun (first, last) =>
    if first < last then [first, last] else []
  let isCut := places.foldl (fun flags n => flags.setIfInBounds n true)
    (Array.replicate text.length false)
  text.zip isCut.toList

end PoolLogin.Console.Highlight
