/-!
# Keccak-256

The hash that names functions and events: the sponge over the permutation of 1600 bits with a rate
of 136 bytes, the first padding byte 1 (not the 6 of the later standard), and 32 bytes of output.
The state is five planes of five lanes of 64 bits; plane `y` holds the lanes `(0, y)` to `(4, y)`.
-/

namespace TokenLens.Keccak

/-- Five lanes with the same `y`. -/
structure Plane where
  x0 : UInt64
  x1 : UInt64
  x2 : UInt64
  x3 : UInt64
  x4 : UInt64

/-- The five planes of the permutation. -/
structure State where
  y0 : Plane
  y1 : Plane
  y2 : Plane
  y3 : Plane
  y4 : Plane

/-- A lane rotated towards its high bits by fewer than sixty-four places. -/
def rotate (lane : UInt64) (places : UInt64) : UInt64 :=
  if places = 0 then lane else (lane <<< places) ||| (lane >>> (64 - places))

namespace Plane

/-- The plane of zeros. -/
def zero : Plane := ⟨0, 0, 0, 0, 0⟩

/-- Lane by lane exclusive or. -/
def xor (left right : Plane) : Plane :=
  ⟨left.x0 ^^^ right.x0, left.x1 ^^^ right.x1, left.x2 ^^^ right.x2, left.x3 ^^^ right.x3,
   left.x4 ^^^ right.x4⟩

/-- What each column takes from its two neighbours. -/
def spread (parity : Plane) : Plane :=
  ⟨parity.x4 ^^^ rotate parity.x1 1, parity.x0 ^^^ rotate parity.x2 1,
   parity.x1 ^^^ rotate parity.x3 1, parity.x2 ^^^ rotate parity.x4 1,
   parity.x3 ^^^ rotate parity.x0 1⟩

/-- Each lane against the two that follow it. -/
def mix (plane : Plane) : Plane :=
  ⟨plane.x0 ^^^ (~~~plane.x1 &&& plane.x2), plane.x1 ^^^ (~~~plane.x2 &&& plane.x3),
   plane.x2 ^^^ (~~~plane.x3 &&& plane.x4), plane.x3 ^^^ (~~~plane.x4 &&& plane.x0),
   plane.x4 ^^^ (~~~plane.x0 &&& plane.x1)⟩

end Plane

namespace State

/-- The state before any input. -/
def zero : State := ⟨.zero, .zero, .zero, .zero, .zero⟩

/-- Each bit takes the parities of two neighbouring columns. -/
def theta (state : State) : State :=
  let parity := state.y0.xor (state.y1.xor (state.y2.xor (state.y3.xor state.y4)))
  let spread := parity.spread
  ⟨state.y0.xor spread, state.y1.xor spread, state.y2.xor spread, state.y3.xor spread,
   state.y4.xor spread⟩

/-- Each lane is rotated by its own distance and moves from `(x, y)` to `(y, 2x + 3y)`. -/
def rotateAndMove (state : State) : State :=
  ⟨⟨state.y0.x0, rotate state.y1.x1 44, rotate state.y2.x2 43, rotate state.y3.x3 21,
    rotate state.y4.x4 14⟩,
   ⟨rotate state.y0.x3 28, rotate state.y1.x4 20, rotate state.y2.x0 3, rotate state.y3.x1 45,
    rotate state.y4.x2 61⟩,
   ⟨rotate state.y0.x1 1, rotate state.y1.x2 6, rotate state.y2.x3 25, rotate state.y3.x4 8,
    rotate state.y4.x0 18⟩,
   ⟨rotate state.y0.x4 27, rotate state.y1.x0 36, rotate state.y2.x1 10, rotate state.y3.x2 15,
    rotate state.y4.x3 56⟩,
   ⟨rotate state.y0.x2 62, rotate state.y1.x3 55, rotate state.y2.x4 39, rotate state.y3.x0 41,
    rotate state.y4.x1 2⟩⟩

/-- One round with its constant. -/
def round (state : State) (constant : UInt64) : State :=
  let moved := state.theta.rotateAndMove
  let first := moved.y0.mix
  ⟨{ first with x0 := first.x0 ^^^ constant }, moved.y1.mix, moved.y2.mix, moved.y3.mix,
   moved.y4.mix⟩

end State

/-- The constants of the twenty-four rounds. -/
def roundConstants : List UInt64 :=
  [0x0000000000000001, 0x0000000000008082, 0x800000000000808A, 0x8000000080008000,
   0x000000000000808B, 0x0000000080000001, 0x8000000080008081, 0x8000000000008009,
   0x000000000000008A, 0x0000000000000088, 0x0000000080008009, 0x000000008000000A,
   0x000000008000808B, 0x800000000000008B, 0x8000000000008089, 0x8000000000008003,
   0x8000000000008002, 0x8000000000000080, 0x000000000000800A, 0x800000008000000A,
   0x8000000080008081, 0x8000000000008080, 0x0000000080000001, 0x8000000080008008]

/-- The permutation. -/
def permute (state : State) : State :=
  roundConstants.foldl State.round state

/-- The lane that eight bytes stand for, the lowest byte first. -/
def laneOf (bytes : List UInt8) : UInt64 :=
  bytes.foldr (fun byte lane => (lane <<< 8) ||| byte.toUInt64) 0

/-- The lane at a position of a block. -/
def laneAt (block : List UInt8) (position : Nat) : UInt64 :=
  laneOf ((block.drop (8 * position)).take 8)

/-- The number of bytes of a block. -/
def blockSize : Nat := 136

/-- Take in one block and permute. -/
def absorb (state : State) (block : List UInt8) : State :=
  let lane := laneAt block
  permute
    { state with
      y0 := state.y0.xor ⟨lane 0, lane 1, lane 2, lane 3, lane 4⟩
      y1 := state.y1.xor ⟨lane 5, lane 6, lane 7, lane 8, lane 9⟩
      y2 := state.y2.xor ⟨lane 10, lane 11, lane 12, lane 13, lane 14⟩
      y3 := state.y3.xor ⟨lane 15, lane 16, 0, 0, 0⟩ }

/-- The padding that follows a message of the given length: a byte 1, zeros, and 128 in the last
byte of the block; one byte 129 where only one byte is free. -/
def padding (length : Nat) : List UInt8 :=
  let free := blockSize - length % blockSize
  if free = 1 then [0x81] else 0x01 :: List.replicate (free - 2) 0x00 ++ [0x80]

/-- Take in as many blocks as the count says. -/
def absorbBlocks : Nat → State → List UInt8 → State
  | 0, state, _ => state
  | count + 1, state, bytes =>
      absorbBlocks count (absorb state (bytes.take blockSize)) (bytes.drop blockSize)

/-- The eight bytes of a lane, the lowest first. -/
def bytesOf (lane : UInt64) : List UInt8 :=
  [lane.toUInt8, (lane >>> 8).toUInt8, (lane >>> 16).toUInt8, (lane >>> 24).toUInt8,
   (lane >>> 32).toUInt8, (lane >>> 40).toUInt8, (lane >>> 48).toUInt8, (lane >>> 56).toUInt8]

/-- The hash of a message. -/
def hash (message : List UInt8) : List UInt8 :=
  let final := absorbBlocks (message.length / blockSize + 1) .zero
    (message ++ padding message.length)
  bytesOf final.y0.x0 ++ bytesOf final.y0.x1 ++ bytesOf final.y0.x2 ++ bytesOf final.y0.x3

end TokenLens.Keccak
