import TokenLens.Evm.Sweep
import TokenLens.SelectorSet

/-!
# Literals in code

Every complete operand of a push of four bytes is a candidate for a function selector, and every one
of thirty-two bytes for an event topic. Literals that serve another purpose are taken along, which
keeps matching permissive.
-/

namespace TokenLens

namespace Instruction

/-- The complete operands of the push with the given mnemonic and width. -/
def pushedLiterals (mnemonic : String) (width : Nat) (instructions : List Instruction) :
    SelectorSet :=
  .ofList ((instructions.filter fun instruction =>
      instruction.mnemonic = mnemonic && instruction.operand.length = width).map operandText)

/-- The candidates for function selectors. -/
def selectorCandidates : List Instruction → SelectorSet :=
  pushedLiterals "PUSH4" 4

/-- The candidates for event topics. -/
def topicCandidates : List Instruction → SelectorSet :=
  pushedLiterals "PUSH32" 32

end Instruction

/-- The candidates for selectors and topics in code. -/
def Code.literals (code : Code) : SelectorSet :=
  (Instruction.selectorCandidates code.instructions).union
    (Instruction.topicCandidates code.instructions)

end TokenLens
