import TokenLens.Evm.Literals
import TokenLens.Proofs.Evm.Boundaries
import TokenLens.Proofs.Evm.Presentation
import TokenLens.Proofs.Proxy.Status

/-!
# Code with more code behind it

A push that the end of the code cuts short swallows the first bytes of whatever is put behind, and
shifts the reading of the rest. But what is detected in code rests on *complete* instructions alone,
those whose operand is as long as the table of opcodes says, and these stay at the front of the
longer code (`Code.isPrefix_complete_append`). So more code never takes a detection away
(`Code.appending_keeps`).
-/

namespace TokenLens

namespace Instruction

variable {instruction : Instruction}

/-- Whether the operand of an instruction is as long as the table of opcodes says. -/
def IsComplete (instruction : Instruction) : Prop :=
  instruction.operand.length = instruction.width

instance : DecidablePred IsComplete :=
  fun instruction => inferInstanceAs (Decidable (instruction.operand.length = instruction.width))

/-- An instruction that holds as many bytes as the push of its opcode takes is complete. -/
theorem isComplete_of_opcode {opcode : Nat} (isOpcode : instruction.opcode = opcode)
    (fills : instruction.operand.length = Opcode.operandWidth opcode) : instruction.IsComplete := by
  rw [IsComplete, fills, width, isOpcode, Opcode.describe_width]

/-- What pushes the address of a contract is complete. -/
theorem PushesAddress.isComplete (pushes : instruction.PushesAddress) : instruction.IsComplete :=
  isComplete_of_opcode pushes.isPush pushes.isAddress.complete

/-- An operand that is a word of a known slot is as long as the word. -/
theorem length_of_ofOperand? {operand : List UInt8} {slot : StorageSlot}
    (isWord : StorageSlot.ofOperand? operand = some slot) : operand.length = 32 := by
  have isSlot : slot.word = "0x" ++ Text.ofChars (Hex.ofBytes operand) := by
    simpa using List.find?_some isWord
  have length : slot.word.length = 66 := by
    have isKnown := List.mem_of_find?_eq_some isWord
    revert isKnown
    generalize slot = known
    revert known
    decide
  have sum := congrArg List.length isSlot
  rw [length, List.length_append, Text.ofChars, List.length_map, Hex.length_ofBytes] at sum
  change 66 = 2 + 2 * operand.length at sum
  omega

/-- What pushes a known slot is complete. -/
theorem isComplete_of_slotName? {name : Text} (isSlot : instruction.slotName? = some name) :
    instruction.IsComplete := by
  unfold slotName? at isSlot
  split at isSlot
  next isPush =>
    obtain ⟨slot, isWord, -⟩ := Option.map_eq_some_iff.1 isSlot
    exact isComplete_of_opcode isPush (length_of_ofOperand? isWord)
  next => cases isSlot

/-- The opcodes of the two mnemonics whose operands are taken for selectors and topics. -/
theorem opcode_of_mnemonic : ∀ opcode : Nat, opcode < 256 →
    ((Opcode.describe opcode).1 = "PUSH4" → opcode = 0x63) ∧
      ((Opcode.describe opcode).1 = "PUSH32" → opcode = 0x7F) := by
  decide +kernel

/-- The literals of a push are the operands of that width under its mnemonic. -/
theorem mem_pushedLiterals_iff {mnemonic : String} {width : Nat} {instructions : List Instruction}
    {literal : Text} : literal ∈ pushedLiterals mnemonic width instructions ↔
      ∃ instruction ∈ instructions, (instruction.mnemonic = mnemonic ∧
        instruction.operand.length = width) ∧ instruction.operandText = literal := by
  simp [pushedLiterals, and_assoc]

end Instruction

/-- Of the instructions of bytes just the complete ones are kept when bytes are put behind, and
others are read after them. -/
theorem sweep_append_eq (offset skip : Nat) (bytes more : List UInt8) :
    ∃ later, sweep offset skip (bytes ++ more) =
      (sweep offset skip bytes).filter (·.IsComplete) ++ later := by
  induction bytes generalizing offset skip with
  | nil => exact ⟨_, rfl⟩
  | cons byte rest inductionHypothesis =>
      cases skip with
      | succ skip => exact inductionHypothesis (offset + 1) skip
      | zero =>
          let width := Opcode.operandWidth byte.toNat
          by_cases goesOn : width ≤ rest.length
          · -- The operand ends before the bytes that are put behind begin.
            obtain ⟨later, isLater⟩ := inductionHypothesis (offset + 1) width
            have isComplete : (Instruction.ofByte offset byte rest).IsComplete :=
              Instruction.length_operand_ofByte goesOn
            have same : Instruction.ofByte offset byte (rest ++ more) =
                .ofByte offset byte rest := by
              rw [Instruction.ofByte, List.take_append_of_le_length goesOn]
              rfl
            refine ⟨later, ?_⟩
            rw [List.cons_append, sweep, sweep, isLater, same,
              List.filter_cons_of_pos (by simpa using isComplete), List.cons_append]
          · have isLast : sweep (offset + 1) width rest = [] := sweep_eq_nil_iff.2 (by omega)
            have isCut : ¬ (Instruction.ofByte offset byte rest).IsComplete := by
              intro isComplete
              have length : (rest.take width).length = width :=
                isComplete.trans (Instruction.width_ofByte offset byte rest)
              rw [List.length_take] at length
              omega
            refine ⟨sweep offset 0 (byte :: rest ++ more), ?_⟩
            rw [sweep, isLast, List.filter_cons_of_neg (by simpa using isCut)]
            rfl

/-- An instruction that was read has the mnemonic of its opcode, which is a byte. -/
theorem mnemonic_of_mem_sweep {offset skip : Nat} {bytes : List UInt8} {instruction : Instruction}
    (isRead : instruction ∈ sweep offset skip bytes) :
    instruction.opcode < 256 ∧ instruction.mnemonic = (Opcode.describe instruction.opcode).1 := by
  induction bytes generalizing offset skip with
  | nil => cases isRead
  | cons byte rest inductionHypothesis =>
      cases skip with
      | zero =>
          rcases List.mem_cons.1 isRead with rfl | isLater
          · exact ⟨byte.toNat_lt, rfl⟩
          · exact inductionHypothesis isLater
      | succ skip => exact inductionHypothesis isRead

namespace Code

/-- The complete instructions of code: all but a last one that is cut short. -/
def complete (code : Code) : List Instruction :=
  code.instructions.filter (·.IsComplete)

variable {code : Code}

/-- The complete instructions of code stay in front when more code is put behind. -/
theorem isPrefix_complete_append (first second : Code) :
    first.complete <+: (first.append second).instructions := by
  obtain ⟨later, isLater⟩ := sweep_append_eq 0 0 first.bytes second.bytes
  exact ⟨later, isLater.symm⟩

/-- An instruction that is complete, or is not the last, has its place among the complete ones. -/
theorem getElem?_complete {place : Nat} {instruction : Instruction}
    (isRead : code.instructions[place]? = some instruction)
    (stays : instruction.IsComplete ∨ place + 1 < code.instructions.length) :
    code.complete[place]? = some instruction := by
  rcases List.eq_nil_or_concat code.instructions with isEmpty | ⟨earlier, last, split⟩
  · simp [isEmpty] at isRead
  · have areComplete : ∀ other ∈ earlier, other.IsComplete := by
      intro other isEarlier
      refine code.isSweepOf_instructions.complete other ?_
      simpa [split] using isEarlier
    have kept : code.complete = earlier ++ [last].filter (·.IsComplete) := by
      rw [complete, split, List.concat_eq_append, List.filter_append,
        List.filter_eq_self.2 (by simpa using areComplete)]
    rw [split, List.concat_eq_append] at isRead stays
    rw [kept]
    by_cases isEarlier : place < earlier.length
    · rw [List.getElem?_append_left isEarlier] at isRead ⊢
      exact isRead
    · have isPlace : place = earlier.length := by
        have inside := (List.getElem?_eq_some_iff.1 isRead).1
        simp only [List.length_append, List.length_singleton] at inside
        omega
      subst isPlace
      simp only [List.getElem?_concat_length, Option.some.injEq] at isRead
      subst isRead
      have isComplete : last.IsComplete := stays.resolve_right (by simp)
      simp [isComplete]

/-- All that delegation is told by is complete, so the complete instructions tell the same. -/
theorem slotNames_complete (code : Code) :
    Instruction.slotNames code.complete = Instruction.slotNames code.instructions := by
  rw [Instruction.slotNames, Instruction.slotNames, complete, List.filterMap_filter]
  congr 2
  funext instruction
  split
  next => rfl
  next isCut =>
    refine Eq.symm (Option.eq_none_iff_forall_ne_some.2 fun name isSlot => ?_)
    exact isCut (by simpa using Instruction.isComplete_of_slotName? isSlot)

/-- The first address that is pushed is pushed by a complete instruction. -/
theorem literalTarget?_complete (code : Code) :
    Instruction.literalTarget? code.complete = Instruction.literalTarget? code.instructions := by
  rw [Instruction.literalTarget?, Instruction.literalTarget?, complete, List.find?_filter]
  congr 2
  funext instruction
  by_cases pushes : instruction.PushesAddress
  · rw [Instruction.pushesAddress_iff.2 pushes]
    simpa using pushes.isComplete
  · rw [Bool.eq_false_iff.2 (mt Instruction.pushesAddress_iff.1 pushes)]
    simp

/-- `DELEGATECALL` has no operand that could be cut short. -/
theorem exists_delegates_complete (delegates : code.delegates = true) :
    ∃ instruction ∈ code.complete, instruction.opcode = 0xF4 := by
  obtain ⟨instruction, isRead, isCall⟩ := delegates_iff.1 delegates
  have neverLonger := code.isSweepOf_instructions.neverLonger instruction isRead
  have noOperand : instruction.width = 0 := by
    rw [Instruction.width, isCall]
    decide
  have isComplete : instruction.IsComplete := by
    rw [Instruction.IsComplete]
    omega
  exact ⟨instruction, List.mem_filter.2 ⟨isRead, by simpa using isComplete⟩, isCall⟩

/-- A literal is the operand of a complete instruction. -/
theorem exists_complete_of_mem_literals {literal : Text} (isLiteral : literal ∈ code.literals) :
    ∃ instruction ∈ code.complete, instruction.operandText = literal ∧
      ((instruction.mnemonic = "PUSH4" ∧ instruction.operand.length = 4) ∨
        (instruction.mnemonic = "PUSH32" ∧ instruction.operand.length = 32)) := by
  rw [literals, SelectorSet.mem_union] at isLiteral
  have kept {instruction : Instruction} (isRead : instruction ∈ code.instructions)
      (isComplete : instruction.IsComplete) : instruction ∈ code.complete :=
    List.mem_filter.2 ⟨isRead, by simpa using isComplete⟩
  rcases isLiteral with isSelector | isTopic
  · obtain ⟨instruction, isRead, ⟨isPush, fills⟩, isText⟩ :=
      Instruction.mem_pushedLiterals_iff.1 isSelector
    obtain ⟨isByte, isMnemonic⟩ := mnemonic_of_mem_sweep isRead
    have isOpcode := (Instruction.opcode_of_mnemonic _ isByte).1 (isMnemonic.symm.trans isPush)
    exact ⟨instruction, kept isRead (Instruction.isComplete_of_opcode isOpcode fills), isText,
      .inl ⟨isPush, fills⟩⟩
  · obtain ⟨instruction, isRead, ⟨isPush, fills⟩, isText⟩ :=
      Instruction.mem_pushedLiterals_iff.1 isTopic
    obtain ⟨isByte, isMnemonic⟩ := mnemonic_of_mem_sweep isRead
    have isOpcode := (Instruction.opcode_of_mnemonic _ isByte).2 (isMnemonic.symm.trans isPush)
    exact ⟨instruction, kept isRead (Instruction.isComplete_of_opcode isOpcode fills), isText,
      .inr ⟨isPush, fills⟩⟩

/-- The literals of code stay when more code is put behind. -/
theorem mem_literals_append {first : Code} {literal : Text} (isLiteral : literal ∈ first.literals)
    (second : Code) : literal ∈ (first.append second).literals := by
  obtain ⟨instruction, isComplete, isText, isPush⟩ := exists_complete_of_mem_literals isLiteral
  have isRead := (isPrefix_complete_append first second).subset isComplete
  rw [literals, SelectorSet.mem_union]
  rcases isPush with isPush | isPush
  · exact .inl (Instruction.mem_pushedLiterals_iff.2 ⟨instruction, isRead, isPush, isText⟩)
  · exact .inr (Instruction.mem_pushedLiterals_iff.2 ⟨instruction, isRead, isPush, isText⟩)

end Code

namespace Instruction

/-- Texts that arrive later are put behind those that arrived before. -/
theorem distinct_isPrefix {earlier texts : List Text} (isPrefix : earlier <+: texts) :
    distinct earlier <+: distinct texts := by
  obtain ⟨later, rfl⟩ := isPrefix
  rw [distinct, distinct, List.foldl_append]
  generalize earlier.foldl _ _ = kept
  induction later generalizing kept with
  | nil => exact List.prefix_rfl
  | cons text rest inductionHypothesis =>
      rw [List.foldl_cons]
      split
      · exact inductionHypothesis kept
      · exact (List.prefix_append kept [text]).trans (inductionHypothesis _)

/-- The first address that is pushed stays the first when more is read behind. -/
theorem literalTarget?_of_isPrefix {earlier instructions : List Instruction} {target : Text}
    (isPrefix : earlier <+: instructions) (names : literalTarget? earlier = some target) :
    literalTarget? instructions = some target := by
  obtain ⟨later, rfl⟩ := isPrefix
  rw [literalTarget?_append, names, Option.some_or]

end Instruction

/-- A finding that keeps what an earlier one told: more slots behind the earlier ones, and the
target where there was one. -/
structure Finding.Keeps (later earlier : Finding) : Prop where
  slots : earlier.slots <+: later.slots
  target : ∀ target, earlier.target? = some target → later.target? = some target

namespace Code

/-- The target of a kind is the first address that the code pushes. -/
theorem target?_proxyKind (code : Code) :
    code.proxyKind.target? = Instruction.literalTarget? code.instructions := by
  unfold proxyKind
  split
  next target names =>
    rw [names]
    split
    · rfl
    · rfl
  next namesNone =>
    rw [namesNone]
    split
    · rfl
    · rfl

/-- Code that delegates does so with more code behind it, and what was found about it stays. -/
theorem finding?_append {first : Code} {finding : Finding} (found : first.finding? = some finding)
    (second : Code) :
    ∃ later, (first.append second).finding? = some later ∧ later.Keeps finding := by
  have isPrefix := isPrefix_complete_append first second
  obtain ⟨delegates, isKind, slots⟩ := finding?_eq_some_iff.1 found
  obtain ⟨instruction, isComplete, isCall⟩ := exists_delegates_complete (delegates_iff.2 delegates)
  let whole := first.append second
  let later : Finding := ⟨whole.proxyKind, Instruction.slotNames whole.instructions⟩
  refine ⟨later, finding?_eq_some_iff.2 ⟨⟨instruction, isPrefix.subset isComplete, isCall⟩,
    whole.isKind_proxyKind, rfl⟩, ?_, fun target names => ?_⟩
  · rw [slots, ← slotNames_complete]
    exact Instruction.distinct_isPrefix (isPrefix.filterMap Instruction.slotName?)
  · rw [Finding.target?, ← isKind_iff.1 isKind, target?_proxyKind, ← literalTarget?_complete]
      at names
    rw [Finding.target?, target?_proxyKind]
    exact Instruction.literalTarget?_of_isPrefix isPrefix names

/-- Texts that spell code, put side by side, lose nothing that was detected in the first. Where they
spell code at all (as they do when digits are put behind a text that does not end in a blank), every
instruction of the first that is complete or is not its last is an instruction of the whole at the
same place; every literal of the first is one of the whole; and a finding about the first is kept by
a finding about the whole. -/
theorem appending_keeps {front back : Text} {first second : Code}
    (isFirst : ofText front = .ok first) (isSecond : ofText back = .ok second) :
    (∀ digits, Hex.AreWhole digits → back = Text.ofChars digits →
      (∀ last ∈ front.getLast?, Text.isBlank last = false) →
        ∃ whole, ofText (front ++ back) = .ok whole) ∧
    ∀ whole, ofText (front ++ back) = .ok whole →
      (∀ place instruction, first.instructions[place]? = some instruction →
        instruction.IsComplete ∨ place + 1 < first.instructions.length →
          whole.instructions[place]? = some instruction) ∧
      (∀ literal ∈ first.literals, literal ∈ whole.literals) ∧
      ∀ finding, first.finding? = some finding →
        ∃ later, whole.finding? = some later ∧ later.Keeps finding := by
  refine ⟨?_, fun whole isWhole => ?_⟩
  · rintro digits areWhole rfl ends
    exact exists_ofText_append isFirst ends areWhole
  · obtain rfl := eq_append_of_ofText isFirst isSecond isWhole
    refine ⟨fun place instruction isRead stays => ?_, fun literal isLiteral => ?_,
      fun finding found => finding?_append found second⟩
    · obtain ⟨later, isLater⟩ := isPrefix_complete_append first second
      have isKept := getElem?_complete isRead stays
      rw [← isLater, List.getElem?_append_left (List.getElem?_eq_some_iff.1 isKept).1, isKept]
    · exact mem_literals_append isLiteral second

/-- Code that delegates to a fixed address, and ends inside of a push that it cuts short. -/
def cutShort : Code :=
  ⟨0x73 :: elevens ++ [0xF4, 0x7F, 0x36]⟩

/-- The text of code that ends inside of a push keeps all that is detected in it when digits are
put behind that the push swallows, though the instruction at the cut becomes another. -/
theorem appending_keeps_cutShort :
    ofText cutShort.text = .ok cutShort ∧ ofText "f4" = .ok ⟨[0xF4]⟩ ∧
      ofText (cutShort.text ++ "f4") = .ok (cutShort.append ⟨[0xF4]⟩) ∧
      (∀ place instruction, cutShort.instructions[place]? = some instruction →
        instruction.IsComplete ∨ place + 1 < cutShort.instructions.length →
          (cutShort.append ⟨[0xF4]⟩).instructions[place]? = some instruction) ∧
      (cutShort.append ⟨[0xF4]⟩).instructions[2]? ≠ cutShort.instructions[2]? ∧
      ∃ finding later, cutShort.finding? = some finding ∧
        (cutShort.append ⟨[0xF4]⟩).finding? = some later ∧ later.Keeps finding := by
  have isFirst : ofText cutShort.text = .ok cutShort := ofText_text cutShort
  have isSecond : ofText "f4" = .ok ⟨[0xF4]⟩ := ofText_text ⟨[0xF4]⟩
  have isWhole : ofText (cutShort.text ++ "f4") = .ok (cutShort.append ⟨[0xF4]⟩) := by
    have isText := text_append cutShort ⟨[0xF4]⟩
    exact isText ▸ ofText_text (cutShort.append ⟨[0xF4]⟩)
  obtain ⟨-, keeps⟩ := appending_keeps isFirst isSecond
  obtain ⟨places, -, findings⟩ := keeps _ isWhole
  have found : cutShort.finding? = some ⟨.direct (Address.spelling elevens), []⟩ := by
    decide +kernel
  obtain ⟨later, isLater, keeps⟩ := findings _ found
  exact ⟨isFirst, isSecond, isWhole, places, by decide +kernel, _, later, found, isLater, keeps⟩

end Code

end TokenLens
