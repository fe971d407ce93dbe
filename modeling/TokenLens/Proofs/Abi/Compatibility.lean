import TokenLens.Proofs.Abi.Selector
import TokenLens.Proofs.Evm.Sweep
import TokenLens.Proofs.Outcome
import TokenLens.Proofs.Text.Occurrence
import TokenLens.Verdict.Classify

/-!
# The test on text misses no push

Whether code could implement an ABI is tested on text alone. Read as instructions, code that pushes
the value of every selector passes that test: the encoder may choose any width of push, with zeros
in front or without, since code mentions the selector of every number that it pushes
(`Code.mentions_of_pushes`). A selector also counts where it occurs across instructions or at an odd
digit, so a test that is passed says nothing about what is pushed.
-/

namespace TokenLens

/-- An instruction that pushes a number: a push of some width whose operand is complete and stands
for the number. -/
def Instruction.Pushes (instruction : Instruction) (number : Nat) : Prop :=
  ∃ width, 1 ≤ width ∧ width ≤ 32 ∧ instruction.opcode = 0x5F + width ∧
    instruction.operand.length = width ∧ Hex.numberOf instruction.operand = number

/-- Every selector of an ABI is the selector of some bytes. -/
theorem Abi.exists_bytes_of_mem_selectors {abi : Json} {selectors : SelectorSet}
    (accepted : Abi.selectors abi = .ok selectors) {selector : Text}
    (isSelector : selector ∈ selectors) : ∃ bytes, selector = Selector.ofBytes bytes := by
  unfold Abi.selectors at accepted
  cases declared : Abi.declarations abi with
  | error fault =>
      rw [declared] at accepted
      cases accepted
  | ok declarations =>
      rw [declared] at accepted
      obtain rfl := Except.ok.inj accepted
      obtain ⟨declaration, -, rfl⟩ := List.mem_map.1 (SelectorSet.mem_ofList.1 isSelector)
      unfold Declaration.selector
      split
      · exact ⟨_, rfl⟩
      · exact ⟨_, rfl⟩

/-- Code mentions the selector of every number that it pushes. -/
theorem Code.mentions_of_pushes {code : Code} {instruction : Instruction} {bytes : List UInt8}
    (isRead : instruction ∈ code.instructions)
    (pushes : instruction.Pushes (Hex.numberOf bytes)) :
    Text.mentions code.text (Selector.ofBytes bytes) = true := by
  obtain ⟨width, isPush, -, -, complete, value⟩ := pushes
  have someByte : instruction.operand ≠ [] := by
    rintro nothing
    rw [nothing, List.length_nil] at complete
    omega
  -- Both are the spelling of one number, and the operand ends in it.
  have same : Selector.ofBytes bytes = Selector.ofBytes instruction.operand := by
    rw [Selector.ofBytes_eq_textOf, Selector.ofBytes_eq_textOf, value]
  rw [Text.mentions, Text.occursIn_iff_isInfix, same]
  exact (Selector.ofBytes_isSuffix someByte).isInfix.trans (operandText_isInfix isRead)

/-- Code that pushes the value of every selector of an ABI, whatever the widths of the pushes, could
implement the ABI. -/
theorem couldImplement_of_pushes {abi bytecode : Json} {selectors : SelectorSet} {code : Code}
    (accepted : Abi.selectors abi = .ok selectors) (spelled : Code.ofJson bytecode = .ok code)
    (pushed : ∀ selector ∈ selectors, ∃ number, Hex.number? selector = some number ∧
      ∃ instruction ∈ code.instructions, instruction.Pushes number) :
    couldImplement abi bytecode = .ok true := by
  have allOccur : Abi.allOccurIn selectors.toList code.text = true := by
    refine List.all_eq_true.2 fun selector isSelector => ?_
    obtain ⟨number, stands, instruction, isRead, pushes⟩ := pushed selector isSelector
    obtain ⟨bytes, rfl⟩ := Abi.exists_bytes_of_mem_selectors accepted isSelector
    rw [Selector.number?_ofBytes] at stands
    obtain rfl := Option.some.inj stands
    exact Code.mentions_of_pushes isRead pushes
  unfold couldImplement
  rw [accepted, spelled]
  exact congrArg Except.ok allOccur

/-- An ABI with two functions. The selector of the first has two zeros in front. -/
def twoFunctions : Json :=
  let entry (name : Text) : Json :=
    .obj [("type", .str "function"), ("name", .str name),
      ("inputs", .arr [.obj [("type", .str "address")], .obj [("type", .str "uint256")]])]
  .arr [entry "balanceOf", entry "transfer"]

/-- Code that pushes one of the two selectors without its zeros, and the other with a zero more. -/
theorem couldImplement_of_pushes_twoFunctions :
    let selectors := SelectorSet.ofList ["fdd58e", "a9059cbb"]
    let code : Code := ⟨[0x62, 0xfd, 0xd5, 0x8e, 0x64, 0, 0xa9, 0x05, 0x9c, 0xbb]⟩
    Abi.selectors twoFunctions = .ok selectors ∧
    Code.ofJson (.str "0x62fdd58e6400a9059cbb") = .ok code ∧
    (∀ selector ∈ selectors, ∃ number, Hex.number? selector = some number ∧
      ∃ instruction ∈ code.instructions, instruction.Pushes number) ∧
    couldImplement twoFunctions (.str "0x62fdd58e6400a9059cbb") = .ok true := by
  intro selectors code
  have accepted : Abi.selectors twoFunctions = .ok selectors := by
    refine eq_ok_of_toOption ?_
    decide +kernel
  have spelled : Code.ofJson (.str "0x62fdd58e6400a9059cbb") = .ok code := by decide +kernel
  have instructions : code.instructions = [⟨0, 0x62, "PUSH3", [0xfd, 0xd5, 0x8e]⟩,
      ⟨4, 0x64, "PUSH5", [0, 0xa9, 0x05, 0x9c, 0xbb]⟩] := by decide +kernel
  have pushed : ∀ selector ∈ selectors, ∃ number, Hex.number? selector = some number ∧
      ∃ instruction ∈ code.instructions, instruction.Pushes number := by
    intro selector isSelector
    rw [instructions]
    have isEither := SelectorSet.mem_ofList.1 isSelector
    simp only [List.mem_cons, List.not_mem_nil, or_false] at isEither
    rcases isEither with rfl | rfl
    · exact ⟨0xfdd58e, by decide +kernel, _, List.mem_cons_self, 3, by decide +kernel⟩
    · exact ⟨0xa9059cbb, by decide +kernel, _, List.mem_cons_of_mem _ List.mem_cons_self, 5,
        by decide +kernel⟩
  exact ⟨accepted, spelled, pushed, couldImplement_of_pushes accepted spelled pushed⟩

end TokenLens
