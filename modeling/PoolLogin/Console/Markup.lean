import PoolLogin.Text.Basic

/-!
Paths inside text with markup in square brackets. They are escaped so that they show as they are;
two odd spots of the escapes remain, a backslash at the end of a path and one in front of a bracket
that opens no tag.
-/

namespace PoolLogin.Console

/-- A character with which the inside of a tag can start. -/
def startsTag (c : Char) : Bool := ('a' ≤ c && c ≤ 'z') || c == '#' || c == '/' || c == '@'

/-- Whether the text after an opening bracket makes it the start of a tag: it closes before
another bracket opens. -/
def opensTag : Text → Bool
  | [] => false
  | c :: rest => startsTag c && (rest.dropWhile fun d => d != '[' && d != ']').head? == some ']'

/-- The text without the backslashes that stand right in front of brackets that open no tag. -/
def dropBracketEscapes : Text → Text
  | [] => []
  | [c] => [c]
  | c :: d :: rest =>
    if c = '\\' ∧ d = '[' ∧ !opensTag rest then dropBracketEscapes (d :: rest)
    else c :: dropBracketEscapes (d :: rest)

def endsInBackslash (text : Text) : Bool :=
  match text.reverse with
  | '\\' :: '\\' :: _ => false
  | '\\' :: _ => true
  | _ => false

/-- A path as it shows: a single backslash at its end shows twice. -/
def shownPath (path : Text) : Text :=
  dropBracketEscapes path ++ if endsInBackslash path then ['\\'] else []

end PoolLogin.Console
