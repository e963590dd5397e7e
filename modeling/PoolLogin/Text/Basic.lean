/-!
Text is a list of Unicode scalar values, and bytes are a list of octets. Everything the library
decides is decided on these two types; `String` appears only where a literal is written down and
where the outermost layer reads and prints.
-/

namespace PoolLogin

/-- A text: its Unicode scalar values in order. -/
abbrev Text := List Char

/-- A sequence of octets, the content of a file. -/
abbrev Bytes := List UInt8

namespace Text

/-- The text with every ASCII capital replaced by its small letter. It is used to compare with
ASCII words only. Beside the capitals, the Kelvin sign is the one character whose lower case is an
ASCII letter, and no word compared with it holds a `k`. -/
def lowercase (text : Text) : Text := text.map Char.toLower

/-- Texts put one after another with `separator` between neighbours. What they are made of does not
matter. -/
def joinWith {α : Type} (separator : List α) : List (List α) → List α
  | [] => []
  | [text] => text
  | text :: texts => text ++ separator ++ joinWith separator texts

/-- The text without its first and last characters that satisfy `drop`. -/
def trim (drop : Char → Bool) (text : Text) : Text :=
  ((text.dropWhile drop).reverse.dropWhile drop).reverse

/-- Lexicographic order by code point. -/
def le : Text → Text → Bool
  | [], _ => true
  | _ :: _, [] => false
  | a :: as, b :: bs => if a = b then le as bs else decide (a < b)

/-! ### Sets of characters

The larger sets are given by the code points at which membership changes: the first of them is the
first member, the second the first character after it that is none, and so on. -/

/-- Whether a code point lies in the set that changes at the given ascending code points. -/
def changesBefore (changes : List Nat) (n : Nat) : Bool :=
  (changes.takeWhile (· ≤ n)).length % 2 == 1

/-- White space, as a line counts as blank: the 29 characters with the bidirectional class of a
separator or the general category of a space. The byte-order mark and the zero-width space are not
among them. -/
def isBlank (c : Char) : Bool :=
  let n := c.toNat
  (9 ≤ n && n ≤ 13) || (28 ≤ n && n ≤ 32) || n == 0x85 || n == 0xA0 || n == 0x1680 ||
    (0x2000 ≤ n && n ≤ 0x200A) || n == 0x2028 || n == 0x2029 || n == 0x202F || n == 0x205F ||
    n == 0x3000

/-- A text of white space only, the empty text among them. -/
def allBlank (text : Text) : Bool := text.all isBlank

/-- The text without the white space at its ends. -/
def strip (text : Text) : Text := trim isBlank text

end Text

end PoolLogin
