import TokenLens.Text.Basic

/-!
# UTF-16 and UTF-32

Texts in units of two or of four bytes, the high or the low byte first. Units of two bytes spell a
character beyond U+FFFF as a pair of halves; a half that stands alone is taken as it is.
-/

namespace TokenLens.Wide

/-- Which byte of a unit comes first. -/
inductive ByteOrder where
  | highFirst
  | lowFirst
deriving DecidableEq, Repr

/-- The number that the bytes of a unit stand for. -/
def unitOf (order : ByteOrder) (bytes : List UInt8) : Nat :=
  let highFirst := match order with
    | .highFirst => bytes
    | .lowFirst => bytes.reverse
  highFirst.foldl (fun number byte => number * 0x100 + byte.toNat) 0

/-- The units of two bytes; none if a byte is left over. -/
def doubles? (order : ByteOrder) : List UInt8 → Option (List Nat)
  | [] => some []
  | first :: second :: rest => (doubles? order rest).map (unitOf order [first, second] :: ·)
  | [_] => none

/-- The units of four bytes; none if bytes are left over. -/
def quadruples? (order : ByteOrder) : List UInt8 → Option (List Nat)
  | [] => some []
  | first :: second :: third :: fourth :: rest =>
      (quadruples? order rest).map (unitOf order [first, second, third, fourth] :: ·)
  | _ => none

/-- Whether a unit is the first half of a pair. -/
def isFirstHalf (unit : Nat) : Bool :=
  0xD800 ≤ unit && unit ≤ 0xDBFF

/-- Whether a unit is the second half of a pair. -/
def isSecondHalf (unit : Nat) : Bool :=
  0xDC00 ≤ unit && unit ≤ 0xDFFF

/-- The character that a pair of halves spells. -/
def paired (first second : Nat) : CodePoint :=
  .ofNat (0x10000 + (first - 0xD800) * 0x400 + (second - 0xDC00))

/-- The text that units of two bytes spell. -/
def joinPairs : List Nat → Text
  | [] => []
  | [unit] => [.ofNat unit]
  | unit :: next :: rest =>
      if isFirstHalf unit && isSecondHalf next then paired unit next :: joinPairs rest
      else .ofNat unit :: joinPairs (next :: rest)

/-- The text of bytes in units of two. -/
def decode16? (order : ByteOrder) (bytes : List UInt8) : Option Text :=
  (doubles? order bytes).map joinPairs

/-- The text of bytes in units of four, each of which must be the number of a code point. -/
def decode32? (order : ByteOrder) (bytes : List UInt8) : Option Text := do
  let units ← quadruples? order bytes
  if units.all (· ≤ 0x10FFFF) then return units.map .ofNat else none

end TokenLens.Wide
