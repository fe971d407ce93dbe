import TokenLens.Text.Utf8
import TokenLens.Text.Wide

/-!
# Documents as bytes

A document that is sent as bytes does not say how they spell it. A byte order mark tells; without
one the zeros among the first four bytes do, since a document starts with characters of ASCII. In
each encoding a half of a surrogate pair may stand alone.
-/

namespace TokenLens.Json

open TokenLens.Wide

/-- How bytes spell a document. -/
inductive Encoding where
  | utf8
  | utf16 (order : ByteOrder)
  | utf32 (order : ByteOrder)
deriving DecidableEq, Repr

namespace Encoding

/-- The encoding that a byte order mark tells, with the bytes after the mark. -/
def ofMark? : List UInt8 → Option (Encoding × List UInt8)
  | 0x00 :: 0x00 :: 0xFE :: 0xFF :: rest => some (.utf32 .highFirst, rest)
  | 0xFF :: 0xFE :: 0x00 :: 0x00 :: rest => some (.utf32 .lowFirst, rest)
  | 0xFE :: 0xFF :: rest => some (.utf16 .highFirst, rest)
  | 0xFF :: 0xFE :: rest => some (.utf16 .lowFirst, rest)
  | 0xEF :: 0xBB :: 0xBF :: rest => some (.utf8, rest)
  | _ => none

/-- The encoding that the zeros among the first bytes tell. -/
def ofZeros : List UInt8 → Encoding
  | first :: second :: third :: fourth :: _ =>
      if first = 0 then if second = 0 then .utf32 .highFirst else .utf16 .highFirst
      else if second = 0 then
        if third = 0 && fourth = 0 then .utf32 .lowFirst else .utf16 .lowFirst
      else .utf8
  | [first, second] =>
      if first = 0 then .utf16 .highFirst else if second = 0 then .utf16 .lowFirst else .utf8
  | _ => .utf8

/-- The text that bytes spell in an encoding. -/
def decode? (bytes : List UInt8) : Encoding → Option Text
  | .utf8 => Utf8.decodeWithHalves? [] bytes
  | .utf16 order => Wide.decode16? order bytes
  | .utf32 order => Wide.decode32? order bytes

end Encoding

/-- The text of the document that bytes spell. -/
def textOfBytes? (bytes : List UInt8) : Option Text :=
  match Encoding.ofMark? bytes with
  | some (encoding, rest) => encoding.decode? rest
  | none => (Encoding.ofZeros bytes).decode? bytes

end TokenLens.Json
