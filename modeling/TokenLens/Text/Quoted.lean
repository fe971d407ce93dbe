import TokenLens.Hex
import TokenLens.Text.Printable

/-!
# Quoted text

How a text is shown inside a message. It stands between apostrophes, or between quotation marks
when it holds an apostrophe and no quotation mark. The delimiter and the backslash are escaped by a
backslash, line feed, carriage return and tab by their letters, and every other code point without a
visible form by its number in two, four or eight hexadecimal digits.
-/

namespace TokenLens.Text

/-- The delimiter that needs the fewer escapes; apostrophes unless quotation marks do. -/
def delimiterFor (text : Text) : CodePoint :=
  if text.contains (.char '\'') && !text.contains (.char '"') then .char '"' else .char '\''

/-- The number of a code point as an escape of two, four or eight hexadecimal digits. -/
def escapeNumber (number : Nat) : List Char :=
  if number ≤ 0xFF then '\\' :: 'x' :: Hex.padded 2 number
  else if number ≤ 0xFFFF then '\\' :: 'u' :: Hex.padded 4 number
  else '\\' :: 'U' :: Hex.padded 8 number

/-- One code point of a quoted text. -/
def quotePoint (delimiter point : CodePoint) : Text :=
  if point = delimiter || point = .char '\\' then [.char '\\', point]
  else if point = .char '\n' then "\\n"
  else if point = .char '\r' then "\\r"
  else if point = .char '\t' then "\\t"
  else if isPrintable point then [point]
  else ofChars (escapeNumber point.toNat)

/-- A text as messages show it. -/
def quoted (text : Text) : Text :=
  let delimiter := delimiterFor text
  delimiter :: text.flatMap (quotePoint delimiter) ++ [delimiter]

end TokenLens.Text
