import Mathlib.Data.List.Chain
import TokenLens.Proofs.Evm.Sweep

/-!
# Where instructions begin

The linear sweep cuts code into instructions that lie side by side: each begins where the one before
it ends by the table of opcodes. So a place in the code is either the beginning of an instruction or
one of the operand bytes of an earlier one, never both, and a byte that is pushed is not read as an
opcode. `IsSweepOf` says this of a list of instructions and a list of bytes without running the
sweep; `Code.isSweepOf_instructions` is the main statement.

The lemmas about `sweep` are inductions on the bytes with the offset and the count of bytes to skip
left general, as the sweep itself recurses.
-/

namespace TokenLens

/-- The width that the table gives to an opcode is that of a push, and zero for all others. -/
theorem Opcode.describe_width (opcode : Nat) : (describe opcode).2 = operandWidth opcode := by
  by_cases isPush : 0x60 ≤ opcode ∧ opcode ≤ 0x7F
  · have isKnown : mnemonic? opcode = some ("PUSH" ++ toString (opcode - 0x5F)) := by
      rw [mnemonic?, if_pos isPush]
    simp [describe, isKnown]
  · have noOperand : operandWidth opcode = 0 := by rw [operandWidth, if_neg isPush]
    cases isKnown : mnemonic? opcode with
    | none => simp [describe, isKnown, noOperand]
    | some mnemonic => simp [describe, isKnown]

namespace Instruction

/-- The width that the table of opcodes gives to the operand of an instruction, whether or not the
code goes on for so long. -/
def width (instruction : Instruction) : Nat :=
  (Opcode.describe instruction.opcode).2

/-- Whether a place in the code lies in the operand of an instruction. -/
def Covers (instruction : Instruction) (place : Nat) : Prop :=
  instruction.offset < place ∧ place ≤ instruction.offset + instruction.width

/-- An instruction that was read is as wide as the push that its byte is. -/
theorem width_ofByte (offset : Nat) (byte : UInt8) (following : List UInt8) :
    (ofByte offset byte following).width = Opcode.operandWidth byte.toNat :=
  Opcode.describe_width byte.toNat

/-- An operand is no longer than the table says. -/
theorem length_operand_ofByte_le (offset : Nat) (byte : UInt8) (following : List UInt8) :
    (ofByte offset byte following).operand.length ≤ (ofByte offset byte following).width := by
  rw [width_ofByte]
  exact List.length_take_le _ _

/-- An operand is as long as the table says if the code goes on for so long. -/
theorem length_operand_ofByte {offset : Nat} {byte : UInt8} {following : List UInt8}
    (goesOn : Opcode.operandWidth byte.toNat ≤ following.length) :
    (ofByte offset byte following).operand.length = (ofByte offset byte following).width := by
  rw [width_ofByte]
  exact List.length_take_of_le goesOn

end Instruction

/-- Instructions that cut bytes into pieces as the table of opcodes says. -/
structure IsSweepOf (instructions : List Instruction) (bytes : List UInt8) : Prop where
  /-- Put together again, the instructions are the bytes. -/
  lossless : instructions.flatMap Instruction.bytes = bytes
  startsAtZero : ∀ first ∈ instructions.head?, first.offset = 0
  strides : instructions.IsChain fun instruction next =>
    next.offset = instruction.offset + 1 + instruction.width
  /-- A place is the beginning of an instruction unless it lies in the operand of another. -/
  begins_iff : ∀ place < bytes.length, place ∈ instructions.map (·.offset) ↔
    ¬ ∃ instruction ∈ instructions, instruction.Covers place
  neverLonger : ∀ instruction ∈ instructions, instruction.operand.length ≤ instruction.width
  /-- No operand but the last is cut short. -/
  complete : ∀ instruction ∈ instructions.dropLast, instruction.operand.length = instruction.width

section Sweep

variable {offset skip : Nat} {bytes : List UInt8}

/-- Nothing is read where all bytes are skipped. -/
theorem sweep_eq_nil_iff : sweep offset skip bytes = [] ↔ bytes.length ≤ skip := by
  induction bytes generalizing offset skip with
  | nil => simp [sweep]
  | cons byte rest inductionHypothesis =>
      cases skip with
      | zero => simp [sweep]
      | succ skip => simp [sweep, inductionHypothesis]

/-- The first instruction begins behind the bytes to skip. -/
theorem offset_of_mem_head?_sweep {first : Instruction}
    (isFirst : first ∈ (sweep offset skip bytes).head?) : first.offset = offset + skip := by
  induction bytes generalizing offset skip with
  | nil => cases isFirst
  | cons byte rest inductionHypothesis =>
      cases skip with
      | zero =>
          obtain rfl := Option.some.inj isFirst
          rfl
      | succ skip =>
          rw [sweep] at isFirst
          rw [inductionHypothesis isFirst]
          omega

/-- No instruction begins in front of the bytes to skip. -/
theorem le_offset_of_mem_sweep {instruction : Instruction}
    (isRead : instruction ∈ sweep offset skip bytes) : offset + skip ≤ instruction.offset := by
  induction bytes generalizing offset skip with
  | nil => cases isRead
  | cons byte rest inductionHypothesis =>
      cases skip with
      | zero =>
          rcases List.mem_cons.1 isRead with rfl | isLater
          · exact le_refl offset
          · have behind := inductionHypothesis isLater
            omega
      | succ skip =>
          rw [sweep] at isRead
          have behind := inductionHypothesis isRead
          omega

/-- Each instruction begins behind the operand of the one before. -/
theorem isChain_sweep : (sweep offset skip bytes).IsChain fun instruction next =>
    next.offset = instruction.offset + 1 + instruction.width := by
  induction bytes generalizing offset skip with
  | nil => exact .nil
  | cons byte rest inductionHypothesis =>
      cases skip with
      | zero =>
          refine List.isChain_cons.2 ⟨fun next isNext => ?_, inductionHypothesis⟩
          rw [offset_of_mem_head?_sweep isNext, Instruction.width_ofByte]
          rfl
      | succ skip => exact inductionHypothesis

/-- Of the places behind the bytes to skip, those are the beginning of an instruction that lie in
the operand of none. -/
theorem mem_offsets_sweep_iff {place : Nat} :
    place ∈ (sweep offset skip bytes).map (·.offset) ↔
      (offset + skip ≤ place ∧ place < offset + bytes.length) ∧
        ¬ ∃ instruction ∈ sweep offset skip bytes, instruction.Covers place := by
  induction bytes generalizing offset skip with
  | nil =>
      simp only [sweep, List.map_nil, List.not_mem_nil, List.length_nil, false_iff, not_and]
      omega
  | cons byte rest inductionHypothesis =>
      cases skip with
      | zero =>
          have later := @inductionHypothesis (offset + 1) (Opcode.operandWidth byte.toNat)
          have covers : (Instruction.ofByte offset byte rest).Covers place ↔
              offset < place ∧ place ≤ offset + Opcode.operandWidth byte.toNat := by
            rw [Instruction.Covers, Instruction.width_ofByte]
            rfl
          -- What begins later covers nothing up to its own place.
          have notBefore (here : place ≤ offset) : ¬ ∃ instruction ∈
              sweep (offset + 1) (Opcode.operandWidth byte.toNat) rest,
                instruction.Covers place := by
            rintro ⟨instruction, isRead, begins, -⟩
            have behind := le_offset_of_mem_sweep isRead
            omega
          have isHere : (Instruction.ofByte offset byte rest).offset = offset := rfl
          rw [sweep, List.map_cons, List.mem_cons, later, List.exists_mem_cons_iff, covers, isHere,
            List.length_cons]
          by_cases here : place = offset
          · subst here
            have uncovered := notBefore le_rfl
            simp [uncovered]
          · grind
      | succ skip =>
          rw [sweep, inductionHypothesis, List.length_cons]
          grind

/-- No operand is longer than the table says. -/
theorem length_operand_le_of_mem_sweep {instruction : Instruction}
    (isRead : instruction ∈ sweep offset skip bytes) :
    instruction.operand.length ≤ instruction.width := by
  induction bytes generalizing offset skip with
  | nil => cases isRead
  | cons byte rest inductionHypothesis =>
      cases skip with
      | zero =>
          rcases List.mem_cons.1 isRead with rfl | isLater
          · exact Instruction.length_operand_ofByte_le offset byte rest
          · exact inductionHypothesis isLater
      | succ skip => exact inductionHypothesis isRead

/-- Where another instruction follows, the operand is as long as the table says. -/
theorem length_operand_of_mem_dropLast_sweep {instruction : Instruction}
    (isFollowed : instruction ∈ (sweep offset skip bytes).dropLast) :
    instruction.operand.length = instruction.width := by
  induction bytes generalizing offset skip with
  | nil => cases isFollowed
  | cons byte rest inductionHypothesis =>
      cases skip with
      | zero =>
          rw [sweep] at isFollowed
          by_cases isLast : sweep (offset + 1) (Opcode.operandWidth byte.toNat) rest = []
          · rw [isLast] at isFollowed
            cases isFollowed
          · rw [List.dropLast_cons_of_ne_nil isLast] at isFollowed
            rcases List.mem_cons.1 isFollowed with rfl | isLater
            · have goesOn : Opcode.operandWidth byte.toNat < rest.length :=
                not_le.1 (mt sweep_eq_nil_iff.2 isLast)
              exact Instruction.length_operand_ofByte goesOn.le
            · exact inductionHypothesis isLater
      | succ skip => exact inductionHypothesis isFollowed

end Sweep

/-- The instructions of code are the linear sweep of its bytes. -/
theorem Code.isSweepOf_instructions (code : Code) : IsSweepOf code.instructions code.bytes := by
  constructor
  case lossless => exact flatMap_bytes_instructions code
  case startsAtZero => exact fun first isFirst => offset_of_mem_head?_sweep isFirst
  case strides => exact isChain_sweep
  case begins_iff =>
    intro place inside
    rw [instructions, mem_offsets_sweep_iff]
    exact and_iff_right ⟨Nat.zero_le place, by omega⟩
  case neverLonger => exact fun instruction isRead => length_operand_le_of_mem_sweep isRead
  case complete =>
    exact fun instruction isFollowed => length_operand_of_mem_dropLast_sweep isFollowed

/-- A push inside of a push is data, and the second push is cut short by the end of the code. -/
example : (Code.instructions ⟨[0x61, 0x60, 0xf4, 0x73, 0xf4]⟩).map (·.offset) = [0, 3] := by decide

end TokenLens
