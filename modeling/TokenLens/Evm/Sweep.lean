import TokenLens.Evm.Code
import TokenLens.Evm.Opcode

/-!
# The linear sweep

Code is read as instructions from its first byte on: an opcode and, after a push, as many operand
bytes as it takes. Operand bytes are never read as opcodes. Where the code ends inside an operand,
the operand is as long as what is left.
-/

namespace TokenLens

/-- An instruction at its place in the code. -/
structure Instruction where
  offset : Nat
  opcode : Nat
  mnemonic : String
  operand : List UInt8
deriving DecidableEq, Repr

namespace Instruction

/-- The instruction of an opcode byte with the bytes that follow it. -/
def ofByte (offset : Nat) (opcode : UInt8) (following : List UInt8) : Instruction :=
  ⟨offset, opcode.toNat, Opcode.mnemonic opcode,
   following.take (Opcode.operandWidth opcode.toNat)⟩

/-- The operand in hexadecimal. -/
def operandText (instruction : Instruction) : Text :=
  Text.ofChars (Hex.ofBytes instruction.operand)

end Instruction

/-- The instructions of bytes that start at an offset, after the operand bytes still to skip. -/
def sweep (offset skip : Nat) : List UInt8 → List Instruction
  | [] => []
  | byte :: rest =>
      match skip with
      | 0 => .ofByte offset byte rest :: sweep (offset + 1) (Opcode.operandWidth byte.toNat) rest
      | skip + 1 => sweep (offset + 1) skip rest

/-- The instructions of contract code. -/
def Code.instructions (code : Code) : List Instruction :=
  sweep 0 0 code.bytes

end TokenLens
