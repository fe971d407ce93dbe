import TokenLens.Hex
import TokenLens.Json.Basic
import TokenLens.Text.Blank

/-!
# Contract code

Deployed code is a list of bytes. Users and nodes hand it over as text: hexadecimal digits of either
case, perhaps after `0x` or `0X`, perhaps with blanks around. `Code.text` is the one spelling that
all matching of text goes through, two small digits a byte and no mark.
-/

namespace TokenLens

/-- Deployed contract code. -/
structure Code where
  bytes : List UInt8
deriving DecidableEq, Repr, Inhabited

/-- Why a document is not the text of contract code. -/
inductive CodeError where
  | notText (kind : String)
  | notHexadecimal
  | oddLength
deriving DecidableEq, Repr

/-- What is said about a document that is not the text of contract code. -/
def CodeError.message : CodeError → Text
  | .notText kind => "Bytecode must be a hex string, got " ++ kind
  | .notHexadecimal => "Bytecode contains non-hex characters"
  | .oddLength => "Bytecode has an odd number of hex digits"

namespace Code

/-- No code at all. -/
def empty : Code := ⟨[]⟩

/-- The code of two contracts, one after the other. -/
def append (first second : Code) : Code := ⟨first.bytes ++ second.bytes⟩

/-- The spelling of code that is matched against: two small digits a byte. -/
def text (code : Code) : Text :=
  Text.ofChars (Hex.ofBytes code.bytes)

/-- The code that a text spells. -/
def ofText (text : Text) : Except CodeError Code :=
  match (Hex.dropMark (Text.strip text)).chars? with
  | none => .error .notHexadecimal
  | some digits =>
      if digits.all Hex.isDigit then
        if digits.length % 2 = 0 then .ok ⟨Hex.toBytes digits⟩ else .error .oddLength
      else .error .notHexadecimal

/-- The code that a document spells. -/
def ofJson : Json → Except CodeError Code
  | .str text => ofText text
  | document => .error (.notText document.kindName)

end Code

end TokenLens
