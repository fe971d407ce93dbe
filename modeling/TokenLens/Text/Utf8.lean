import TokenLens.Text.Basic

/-!
# UTF-8, also damaged

Bytes are taken apart into the characters that they spell and pieces that spell none: the longest
starts of characters that break off, and single bytes otherwise. What becomes of the damaged pieces
is for the caller to say.
-/

namespace TokenLens.Utf8

/-- A character that has been started: its bytes so far, the bits that they hold, how many bytes are
owed, and the least and the greatest that the next one may be. -/
structure Partial where
  bytes : List UInt8
  point : Nat
  owed : Nat
  least : Nat
  greatest : Nat

/-- What a byte is between two characters. -/
inductive First where
  | whole (character : Char)
  | start (opened : Partial)
  | stray

/-- What a byte is between two characters. A few first bytes narrow what may follow, so that no
character has two spellings and none is a surrogate or past the last code point. -/
def first (byte : UInt8) : First :=
  let value := byte.toNat
  let opened (bits owed least greatest : Nat) : First :=
    .start ⟨[byte], bits, owed, least, greatest⟩
  if value < 0x80 then .whole (Char.ofNat value)
  else if value < 0xC2 then .stray
  else if value < 0xE0 then opened (value - 0xC0) 1 0x80 0xBF
  else if value = 0xE0 then opened 0 2 0xA0 0xBF
  else if value = 0xED then opened 0xD 2 0x80 0x9F
  else if value < 0xF0 then opened (value - 0xE0) 2 0x80 0xBF
  else if value = 0xF0 then opened 0 3 0x90 0xBF
  else if value < 0xF4 then opened (value - 0xF0) 3 0x80 0xBF
  else if value = 0xF4 then opened 4 3 0x80 0x8F
  else .stray

namespace Partial

/-- Whether a byte may come next. -/
def admits (opened : Partial) (byte : UInt8) : Bool :=
  opened.least ≤ byte.toNat && byte.toNat ≤ opened.greatest

/-- A character with one more byte. -/
def extend (opened : Partial) (byte : UInt8) : Partial :=
  ⟨opened.bytes ++ [byte], opened.point * 64 + (byte.toNat - 0x80), opened.owed - 1, 0x80, 0xBF⟩

end Partial

/-- A piece of bytes: a character, or bytes that spell none. -/
inductive Piece where
  | character (value : Char)
  | damaged (bytes : List UInt8)

/-- The pieces of bytes, after a character that may have been started. -/
def piecesFrom (opened? : Option Partial) : List UInt8 → List Piece
  | [] => (opened?.map fun opened => .damaged opened.bytes).toList
  | byte :: rest =>
      let afresh (_ : Unit) : List Piece :=
        match first byte with
        | .whole character => .character character :: piecesFrom none rest
        | .start opened => piecesFrom (some opened) rest
        | .stray => .damaged [byte] :: piecesFrom none rest
      match opened? with
      | none => afresh ()
      | some opened =>
          if opened.admits byte then
            let longer := opened.extend byte
            if longer.owed = 0 then .character (Char.ofNat longer.point) :: piecesFrom none rest
            else piecesFrom (some longer) rest
          else .damaged opened.bytes :: afresh ()

/-- The pieces of bytes. -/
def pieces (bytes : List UInt8) : List Piece :=
  piecesFrom none bytes

/-- The characters of bytes, with a function for damaged pieces. -/
def decode (mend : List UInt8 → List Char) (bytes : List UInt8) : List Char :=
  (pieces bytes).flatMap fun piece => match piece with
    | .character value => [value]
    | .damaged bytes => mend bytes

/-- The characters of bytes without damage. -/
def decode? (bytes : List UInt8) : Option (List Char) :=
  (pieces bytes).mapM fun piece => match piece with
    | .character value => some value
    | .damaged _ => none

/-- The half of a surrogate pair that three bytes would spell if it were a character. -/
def half? (first second third : UInt8) : Option CodePoint :=
  if first = 0xED && (0xA0 ≤ second && second ≤ 0xBF) && (0x80 ≤ third && third ≤ 0xBF) then
    some (.ofNat (0xD000 + (second.toNat - 0x80) * 64 + (third.toNat - 0x80)))
  else none

/-- The text of bytes in which halves of pairs may stand as well, without other damage. `passed` are
the bytes since the last half, the last one first. -/
def decodeWithHalves? (passed : List UInt8) : List UInt8 → Option Text
  | first :: second :: third :: rest =>
      match half? first second third with
      | some half => do
          let before ← decode? passed.reverse
          let after ← decodeWithHalves? [] rest
          return Text.ofChars before ++ half :: after
      | none => decodeWithHalves? (first :: passed) (second :: third :: rest)
  | bytes => (decode? (passed.reverse ++ bytes)).map Text.ofChars

/-- The bytes of the code point with a number. Surrogates have no place in well-formed bytes; they
are given the three bytes that their number would have. -/
def encodeNumber (number : Nat) : List UInt8 :=
  let continuation (divisor : Nat) : UInt8 := UInt8.ofNat (0x80 + number / divisor % 0x40)
  if number < 0x80 then [UInt8.ofNat number]
  else if number < 0x800 then [UInt8.ofNat (0xC0 + number / 0x40), continuation 1]
  else if number < 0x10000 then
    [UInt8.ofNat (0xE0 + number / 0x1000), continuation 0x40, continuation 1]
  else
    [UInt8.ofNat (0xF0 + number / 0x40000), continuation 0x1000, continuation 0x40, continuation 1]

/-- The bytes of a text. -/
def encode (text : Text) : List UInt8 :=
  text.flatMap fun point => encodeNumber point.toNat

end TokenLens.Utf8
