import TokenLens.Hex
import TokenLens.Json.Display
import TokenLens.Number.Numeral
import TokenLens.Text.Case

/-!
# Addresses in answers

The address that a storage word or the answer to a call holds. A word of sixty-four code points
stands for its last forty; these must read as a number in base sixteen and must not be the address
of nothing.
-/

namespace TokenLens

/-- Why an answer holds no address. -/
inductive AddressError where
  | invalid (value : Json)
  | empty

/-- What is said about an answer that holds no address. -/
def AddressError.message : AddressError → Text
  | .invalid value => "Invalid address value: " ++ value.inspect
  | .empty => "Empty address"

namespace Address

/-- The part of an answer that should be an address: the last forty code points of a word. -/
def lastForty (word : Text) : Text :=
  if word.length = 64 then word.drop 24 else word

/-- The address of nothing: all zeros or all ones. -/
def isVacant (digits : Text) : Bool :=
  digits = List.replicate 40 (.char '0') || digits = List.replicate 40 (.char 'f')

/-- The address that the text of an answer holds. -/
def ofText (text : Text) : Except AddressError Text :=
  let digits := lastForty (Hex.dropMark (Text.lower text))
  if digits.length = 40 && (Numeral.readHexInteger? digits).isSome then
    if isVacant digits then .error .empty else .ok ("0x" ++ digits)
  else .error (.invalid (.str text))

/-- The address that an answer holds. -/
def ofJson : Json → Except AddressError Text
  | .str text => ofText text
  | value => .error (.invalid value)

end Address

end TokenLens
