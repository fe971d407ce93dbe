import Mathlib.Data.List.Infix
import TokenLens.Evm.Sweep

/-!
# The sweep loses nothing

The bytes of the instructions, put together again, are the code (`flatMap_bytes_instructions`), also
where the code ends inside of an operand. Every operand is therefore a part of the code, and its
text is a part of the text.
-/

namespace TokenLens

/-- The bytes that an instruction was read from. -/
def Instruction.bytes (instruction : Instruction) : List UInt8 :=
  UInt8.ofNat instruction.opcode :: instruction.operand

/-- What is swept up is what comes after the bytes to skip. -/
theorem flatMap_bytes_sweep (offset skip : Nat) (bytes : List UInt8) :
    (sweep offset skip bytes).flatMap Instruction.bytes = bytes.drop skip := by
  induction bytes generalizing offset skip with
  | nil => simp [sweep]
  | cons byte rest inductionHypothesis =>
      cases skip with
      | zero =>
          rw [sweep, List.flatMap_cons, inductionHypothesis, List.drop_zero]
          simp [Instruction.bytes, Instruction.ofByte]
      | succ skip => rw [sweep, inductionHypothesis, List.drop_succ_cons]

/-- The bytes of the instructions are those of the code. -/
theorem flatMap_bytes_instructions (code : Code) :
    code.instructions.flatMap Instruction.bytes = code.bytes :=
  flatMap_bytes_sweep 0 0 code.bytes

/-- An operand is a part of the code. -/
theorem operand_isInfix {code : Code} {instruction : Instruction}
    (isRead : instruction ∈ code.instructions) : instruction.operand <:+: code.bytes := by
  have ends : instruction.operand <:+ instruction.bytes := List.suffix_cons _ _
  have within : instruction.bytes <:+: code.instructions.flatMap Instruction.bytes :=
    List.infix_of_mem_flatten (List.mem_map_of_mem isRead)
  rw [flatMap_bytes_instructions] at within
  exact ends.isInfix.trans within

/-- The text of an operand is a part of the text of the code. -/
theorem operandText_isInfix {code : Code} {instruction : Instruction}
    (isRead : instruction ∈ code.instructions) : instruction.operandText <:+: code.text :=
  ((operand_isInfix isRead).flatMap Hex.ofByte).map CodePoint.char

end TokenLens
