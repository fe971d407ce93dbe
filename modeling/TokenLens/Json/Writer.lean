import TokenLens.Json.Basic
import TokenLens.Hex
import TokenLens.Number.Shortest

/-!
# Writing documents

Documents are written in ASCII on one line. Quotation mark and backslash are escaped by a backslash,
five controls by their letters, and every other code point outside of U+0020 to U+007E by its
sixteen-bit units in four small hexadecimal digits each. Two spacings are in use: command output
has a space after commas and colons, the request log has none.
-/

namespace TokenLens.Json

/-- What stands between items and between a key and its value. -/
structure Spacing where
  comma : List Char
  colon : List Char

/-- A space after each comma and colon. -/
def Spacing.spaced : Spacing := ⟨[',', ' '], [':', ' ']⟩

/-- No spaces. -/
def Spacing.compact : Spacing := ⟨[','], [':']⟩

/-- A sixteen-bit unit as an escape. -/
def escapeUnit (unit : Nat) : List Char :=
  '\\' :: 'u' :: Hex.padded 4 unit

/-- One code point of a written text. -/
def escapePoint (point : CodePoint) : List Char :=
  let number := point.toNat
  if number = 0x22 then ['\\', '"']
  else if number = 0x5C then ['\\', '\\']
  else if number = 0x0A then ['\\', 'n']
  else if number = 0x0D then ['\\', 'r']
  else if number = 0x09 then ['\\', 't']
  else if number = 0x08 then ['\\', 'b']
  else if number = 0x0C then ['\\', 'f']
  else if 0x20 ≤ number && number ≤ 0x7E then [Char.ofNat number]
  else if number ≤ 0xFFFF then escapeUnit number
  else
    escapeUnit (0xD800 + (number - 0x10000) / 0x400) ++
      escapeUnit (0xDC00 + (number - 0x10000) % 0x400)

/-- The characters of a text between quotation marks. -/
def writeText (text : Text) : List Char :=
  '"' :: text.flatMap escapePoint ++ ['"']

mutual

/-- The characters of a document on one line. -/
def writeChars (spacing : Spacing) : Json → List Char
  | .null => "null".toList
  | .bool value => if value then "true".toList else "false".toList
  | .int value => (toString value).toList
  | .float value => (value.textWith "NaN" "Infinity").toList
  | .str text => writeText text
  | .arr items => '[' :: (writeItems spacing items ++ [']'])
  | .obj members => '\x7b' :: (writeMembers spacing members ++ ['\x7d'])
termination_by structural document => document

/-- Written items with commas between them. -/
def writeItems (spacing : Spacing) : List Json → List Char
  | [] => []
  | [item] => writeChars spacing item
  | item :: next :: rest =>
      writeChars spacing item ++ (spacing.comma ++ writeItems spacing (next :: rest))
termination_by structural items => items

/-- Written members with commas between them. -/
def writeMembers (spacing : Spacing) : List (Text × Json) → List Char
  | [] => []
  | [(key, value)] => writeText key ++ (spacing.colon ++ writeChars spacing value)
  | (key, value) :: next :: rest =>
      writeText key ++ (spacing.colon ++ (writeChars spacing value ++
        (spacing.comma ++ writeMembers spacing (next :: rest))))
termination_by structural members => members

end

/-- A document on one line. -/
def write (spacing : Spacing) (document : Json) : String :=
  String.ofList (writeChars spacing document)

end TokenLens.Json
