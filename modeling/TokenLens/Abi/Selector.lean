import TokenLens.Hex
import TokenLens.Text.Case

/-!
# The spelling of selectors

A selector is written with small hexadecimal digits, without a mark and without leading zeros; zero
is one digit. So one selector has one spelling, whether an encoder padded it or not, and the
spelling is a suffix of every padded one.
-/

namespace TokenLens.Selector

/-- Digits without leading zeros; a single zero if nothing else is left. -/
def dropLeadingZeros (digits : Text) : Text :=
  match digits.dropWhile (· = .char '0') with
  | [] => [.char '0']
  | significant => significant

/-- The spelling of a selector given as text. -/
def ofText (text : Text) : Text :=
  dropLeadingZeros (Hex.dropMark (Text.lower text))

/-- The spelling of a selector given as bytes. -/
def ofBytes (bytes : List UInt8) : Text :=
  dropLeadingZeros (Text.ofChars (Hex.ofBytes bytes))

end TokenLens.Selector
