import TokenLens.Text.Basic
import TokenLens.Text.Ranges

/-!
# Blank characters

Two classes of blanks. *White space* is the Unicode property of that name. A character is *blank*
when it is white space or one of the four information separators U+001C to U+001F. Texts that users
hand in are stripped of blanks; numerals may stand among white space only.
-/

namespace TokenLens.Text

/-- The Unicode property White_Space. -/
def whiteSpaceRanges : List (Nat × Nat) :=
  [(0x09, 0x0D), (0x20, 0x20), (0x85, 0x85), (0xA0, 0xA0), (0x1680, 0x1680), (0x2000, 0x200A),
   (0x2028, 0x2029), (0x202F, 0x202F), (0x205F, 0x205F), (0x3000, 0x3000)]

/-- Whether a code point has the property White_Space. -/
def isWhiteSpace (point : CodePoint) : Bool :=
  inRanges whiteSpaceRanges point.toNat

/-- Whether a code point is stripped from the ends of a text. -/
def isBlank (point : CodePoint) : Bool :=
  isWhiteSpace point || inRanges [(0x1C, 0x1F)] point.toNat

/-- A list without the elements of a class at either end. -/
def trimBoth {α : Type} (inClass : α → Bool) (items : List α) : List α :=
  ((items.dropWhile inClass).reverse.dropWhile inClass).reverse

/-- A text without the blanks at either end. -/
def strip (text : Text) : Text :=
  trimBoth isBlank text

end TokenLens.Text
