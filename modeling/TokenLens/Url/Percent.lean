import TokenLens.Hex
import TokenLens.Text.Utf8

/-!
# Percent signs

A part of a URL may hold a byte as two hexadecimal digits behind a percent sign, and has to for what
is not of ASCII. Which characters of ASCII are written plainly depends on the part. What becomes of
bytes that spell no character does too: in a path U+FFFD takes their place, elsewhere they stay
behind their percent signs.
-/

namespace TokenLens.Percent

/-- Whether a character is written plainly in every part. -/
def isPlain (character : Char) : Bool :=
  character.isAlphanum || "_.-~".contains character

/-- A byte behind a percent sign, with capital digits. -/
def ofByte (byte : UInt8) : List Char :=
  '%' :: (Hex.ofByte byte).map Char.toUpper

/-- A text with percent signs before the bytes of all characters that are plain neither in every
part nor in this one; none if it holds half of a pair. -/
def encode? (plainHere : String) (text : Text) : Option (List Char) :=
  text.flatMapM fun point => do
    let character ← point.char?
    return if isPlain character || plainHere.contains character then [character]
      else (Utf8.encodeNumber character.toNat).flatMap ofByte

/-- The bytes of a text in which percent signs stand before bytes. A percent sign before anything
else stands for itself. -/
def bytesOf : List Char → List UInt8
  | '%' :: high :: low :: rest =>
      if Hex.isDigit high && Hex.isDigit low then Hex.byteOf high low :: bytesOf rest
      else 0x25 :: bytesOf (high :: low :: rest)
  | character :: rest => Utf8.encodeNumber character.toNat ++ bytesOf rest
  | [] => []

/-- The text of a path. -/
def decodePath (path : List Char) : List Char :=
  Utf8.decode (fun _ => [Char.ofNat 0xFFFD]) (bytesOf path)

/-- Characters in which bytes that spell none stand behind percent signs. -/
def decodeBytes (bytes : List UInt8) : List Char :=
  Utf8.decode (·.flatMap ofByte) bytes

/-- The text of a name or a value in a query, where a plus sign is a space. -/
def decodeField (field : List Char) : String :=
  String.ofList
    (decodeBytes (bytesOf (field.map fun character => if character = '+' then ' ' else character)))

/-- Whether a byte stays behind its percent sign in the name of a user or in a password: controls,
the space, the percent sign, and what ends either of them. -/
def staysInUser (byte : UInt8) : Bool :=
  byte.toNat ≤ 0x20 || byte = 0x25 || byte = 0x7F ||
    ":@/?#".toList.any fun character => character.toNat = byte.toNat

/-- The bytes of the name of a user or of a password. -/
def userBytesOf : List Char → List UInt8
  | '%' :: high :: low :: rest =>
      if Hex.isDigit high && Hex.isDigit low then
        let byte := Hex.byteOf high low
        if staysInUser byte then
          0x25 :: Utf8.encodeNumber high.toNat ++ Utf8.encodeNumber low.toNat ++ userBytesOf rest
        else byte :: userBytesOf rest
      else 0x25 :: userBytesOf (high :: low :: rest)
  | character :: rest => Utf8.encodeNumber character.toNat ++ userBytesOf rest
  | [] => []

/-- The text of the name of a user or of a password. -/
def decodeUser (user : List Char) : List Char :=
  decodeBytes (userBytesOf user)

end TokenLens.Percent
