import PoolLogin.Text.Basic

/-!
Text that may hold surrogates without a partner. Case files can spell them with escapes. They are
kept and compared like characters, and only what writes UTF-8 has no place for them.
-/

namespace PoolLogin

/-- A code point: a character, or a surrogate that stands alone. -/
inductive CodePoint where
  | char (c : Char)
  /-- The surrogate `n` places after the first one. -/
  | surrogate (n : Fin 0x800)
  deriving DecidableEq, Repr

namespace CodePoint

def firstSurrogate : Nat := 0xD800

/-- The number of a code point. -/
def toNat : CodePoint → Nat
  | char c => c.toNat
  | surrogate n => firstSurrogate + n.val

/-- The code point of a number below 0x110000. -/
def ofNat (n : Nat) : CodePoint :=
  if firstSurrogate ≤ n ∧ n < firstSurrogate + 0x800 then
    surrogate (Fin.ofNat 0x800 (n - firstSurrogate))
  else char (Char.ofNat n)

/-- A code point as a character, unless it is a surrogate. -/
def char? : CodePoint → Option Char
  | char c => some c
  | surrogate _ => none

end CodePoint

/-- A text that may hold surrogates. -/
abbrev WideText := List CodePoint

namespace WideText

def ofText (text : Text) : WideText := text.map .char

/-- The text of code points that are all characters. -/
def text? (text : WideText) : Option Text := text.mapM CodePoint.char?

/-- What `text?` makes of a text is that text. -/
theorem text?_ofText (text : Text) : text? (ofText text) = some text := by
  induction text with
  | nil => rfl
  | cons c text ih =>
    simp only [text?, ofText, List.map_cons] at ih ⊢
    simp [ih, CodePoint.char?]

/-- Different texts stay different. -/
theorem ofText_injective {a b : Text} (h : ofText a = ofText b) : a = b := by
  have := congrArg text? h
  simpa [text?_ofText] using this

end WideText

end PoolLogin
