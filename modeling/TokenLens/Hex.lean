import TokenLens.Text.Basic

/-!
# Hexadecimal text

Bytes as two small digits each, texts of hexadecimal digits back to bytes, and numbers as padded
digits. Letters are read in either case and written small.
-/

namespace TokenLens.Hex

/-- The digit of a value below sixteen. -/
def digit (value : Nat) : Char :=
  if value < 10 then Char.ofNat (48 + value) else Char.ofNat (87 + value)

/-- The value of a hexadecimal digit in either case. -/
def digitValue? (character : Char) : Option Nat :=
  let point := character.toNat
  if 48 ≤ point ∧ point ≤ 57 then some (point - 48)
  else if 97 ≤ point ∧ point ≤ 102 then some (point - 87)
  else if 65 ≤ point ∧ point ≤ 70 then some (point - 55)
  else none

/-- Whether a character is a hexadecimal digit. -/
def isDigit (character : Char) : Bool :=
  (digitValue? character).isSome

/-- A text without the mark `0x` or `0X` in front. -/
def dropMark : Text → Text
  | .char '0' :: .char 'x' :: rest => rest
  | .char '0' :: .char 'X' :: rest => rest
  | text => text

/-- The two digits of a byte. -/
def ofByte (byte : UInt8) : List Char :=
  [digit (byte.toNat / 16), digit (byte.toNat % 16)]

/-- The digits of bytes in order. -/
def ofBytes (bytes : List UInt8) : List Char :=
  bytes.flatMap ofByte

/-- The byte that two digits stand for; a character that is no digit counts as zero. -/
def byteOf (high low : Char) : UInt8 :=
  UInt8.ofNat (16 * (digitValue? high).getD 0 + (digitValue? low).getD 0)

/-- The bytes of digits read two by two; a last digit without a partner is dropped. -/
def toBytes : List Char → List UInt8
  | high :: low :: rest => byteOf high low :: toBytes rest
  | _ => []

/-- The digits of a number, without leading zeros; none for zero. -/
def digitsOf (value : Nat) : List Char :=
  if value = 0 then [] else (Nat.toDigits 16 value)

/-- The digits of a number with zeros in front up to a least width. -/
def padded (width value : Nat) : List Char :=
  let digits := digitsOf value
  List.replicate (width - digits.length) '0' ++ digits

end TokenLens.Hex
