import PoolLogin.Text.Basic

/-!
Three notions of line. Text files are read with every kind of newline turned into `\n`; names are
separated by `\n` alone; and the width of a table cell is measured over all Unicode line breaks.
-/

namespace PoolLogin.Text

/-- Every `\r\n` and every other `\r` becomes `\n`. -/
def unifyNewlines : Text → Text
  | [] => []
  | '\r' :: '\n' :: rest => '\n' :: unifyNewlines rest
  | c :: rest => (if c = '\r' then '\n' else c) :: unifyNewlines rest

/-- The pieces between separators, one more than there are separators. -/
def splitAt {α : Type} (isSeparator : α → Bool) : List α → List (List α)
  | [] => [[]]
  | c :: rest =>
    if isSeparator c then [] :: splitAt isSeparator rest
    else match splitAt isSeparator rest with
      | [] => [[c]]
      | line :: lines => (c :: line) :: lines

/-- The pieces between newlines. A final newline is followed by an empty piece. -/
def splitLines (text : Text) : List Text := splitAt (· == '\n') text

/-- The characters that end a line in any script. -/
def isLineBreak (c : Char) : Bool :=
  (10 ≤ c.toNat && c.toNat ≤ 13) || (28 ≤ c.toNat && c.toNat ≤ 30) ||
    c.toNat == 0x85 || c.toNat == 0x2028 || c.toNat == 0x2029

/-- The lines of a text that any line break may end; `\r\n` is one break, and a final break opens
no further line. -/
def unicodeLines (text : Text) : List Text :=
  let lines := splitAt isLineBreak (mergePairs text)
  if lines.getLast? = some [] then lines.dropLast else lines
where
  /-- Writes `\r\n` as one `\n`. -/
  mergePairs : Text → Text
    | [] => []
    | '\r' :: '\n' :: rest => '\n' :: mergePairs rest
    | c :: rest => c :: mergePairs rest

end PoolLogin.Text
