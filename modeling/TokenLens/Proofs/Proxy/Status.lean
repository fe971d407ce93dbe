import TokenLens.Proofs.Evm.Spelling
import TokenLens.Proofs.Text.Occurrence
import TokenLens.Proxy.Finding

/-!
# What code tells about its delegation

The finding about code, told by its instructions and its text. Code that never executes
`DELEGATECALL` has none. Otherwise the first complete literal that can be an address is the target;
where there is none, the selector of `implementation()` decides (`Code.isKind_iff`).

The clone template counts as soon as the text starts and ends as the template does, whatever stands
between the two ends. The template itself is found with what it is written around as its target
(`Code.finding?_clone`), and where forty digits stand between the ends they are the target
(`Code.eq_clone_of_isFramed`). But code with more between them, or with less, may be taken for a
clone as well (`Code.padded`).
-/

namespace TokenLens

/-- The spelling of an address in findings. -/
def Address.spelling (address : List UInt8) : Text :=
  "0x" ++ Text.ofChars (Hex.ofBytes address)

/-- Bytes that can be the address of a contract: twenty of them, neither all zero nor all ones. -/
structure Address.IsPlausible (address : List UInt8) : Prop where
  complete : address.length = 20
  notZero : address ≠ List.replicate 20 0x00
  notOnes : address ≠ List.replicate 20 0xFF

namespace Instruction

variable {instruction : Instruction} {instructions : List Instruction} {address : List UInt8}
  {target : Text}

/-- An instruction that pushes what can be the address of a contract. -/
structure PushesAddress (instruction : Instruction) : Prop where
  isPush : instruction.opcode = 0x73
  isAddress : Address.IsPlausible instruction.operand

/-- The test for a literal address finds the pushes of one. -/
theorem pushesAddress_iff :
    (decide (instruction.opcode = 0x73) && isPlausibleAddress instruction.operand) = true ↔
      instruction.PushesAddress := by
  simp only [isPlausibleAddress, Bool.and_eq_true, decide_eq_true_eq]
  constructor
  · rintro ⟨isPush, ⟨complete, notZero⟩, notOnes⟩
    exact ⟨isPush, complete, notZero, notOnes⟩
  · rintro ⟨isPush, complete, notZero, notOnes⟩
    exact ⟨isPush, ⟨complete, notZero⟩, notOnes⟩

/-- The first address that instructions push. -/
def IsFirstAddress (instructions : List Instruction) (address : List UInt8) : Prop :=
  ∃ before instruction after, instructions = before ++ instruction :: after ∧
    (∀ earlier ∈ before, ¬ earlier.PushesAddress) ∧
    instruction.PushesAddress ∧ instruction.operand = address

/-- The literal target is the first address that is pushed. -/
theorem literalTarget?_eq_some_iff : literalTarget? instructions = some target ↔
    ∃ address, IsFirstAddress instructions address ∧ Address.spelling address = target := by
  rw [literalTarget?, Option.map_eq_some_iff]
  simp only [List.find?_eq_some_iff_append, pushesAddress_iff, Bool.not_eq_true', Bool.eq_false_iff,
    ne_eq]
  constructor
  · rintro ⟨instruction, ⟨pushes, before, after, split, noneBefore⟩, rfl⟩
    exact ⟨_, ⟨before, instruction, after, split, noneBefore, pushes, rfl⟩, rfl⟩
  · rintro ⟨_, ⟨before, instruction, after, split, noneBefore, pushes, rfl⟩, rfl⟩
    exact ⟨instruction, ⟨pushes, before, after, split, noneBefore⟩, rfl⟩

/-- There is no literal target exactly if no address is pushed. -/
theorem literalTarget?_eq_none_iff : literalTarget? instructions = none ↔
    ∀ instruction ∈ instructions, ¬ instruction.PushesAddress := by
  rw [literalTarget?, Option.map_eq_none_iff, List.find?_eq_none]
  simp only [pushesAddress_iff]

/-- Instructions that are read behind others give a target where the others gave none. -/
theorem literalTarget?_append (instructions later : List Instruction) :
    literalTarget? (instructions ++ later) =
      (literalTarget? instructions).or (literalTarget? later) := by
  rw [literalTarget?, List.find?_append, Option.map_or]
  rfl

/-- The first address is pushed by some instruction. -/
theorem IsFirstAddress.exists_pushes (isFirst : IsFirstAddress instructions address) :
    ∃ instruction ∈ instructions, instruction.PushesAddress ∧ instruction.operand = address := by
  obtain ⟨before, instruction, after, rfl, -, pushes⟩ := isFirst
  exact ⟨instruction, by simp, pushes⟩

end Instruction

namespace Code

open Instruction (IsFirstAddress)

variable {code : Code} {kind : ProxyKind} {middle : Text}

/-- Code that starts and ends as the clone template does, with a text in the middle. -/
def IsFramed (code : Code) (middle : Text) : Prop :=
  code.text = clonePrologue ++ middle ++ cloneEpilogue

/-- The two ends of the clone template cannot overlap, so code that has both has a text between
them. -/
theorem isClone_iff : code.isClone = true ↔ ∃ middle, code.IsFramed middle := by
  rw [isClone, Bool.and_eq_true, List.isPrefixOf_iff_prefix, List.isSuffixOf_iff_suffix]
  constructor
  · rintro ⟨⟨rest, starts⟩, front, ends⟩
    rcases List.append_eq_append_iff.1 (starts.trans ends.symm) with
      ⟨middle, -, rfl⟩ | ⟨overlap, isPrologue, isEpilogue⟩
    · refine ⟨middle, ?_⟩
      rw [IsFramed, ← starts, List.append_assoc]
    · cases overlap with
      | nil =>
          refine ⟨[], ?_⟩
          rw [IsFramed, ← starts, isEpilogue]
          simp
      | cons point overlap =>
          -- The epilogue begins with a digit that the prologue does not hold.
          have isFive : point = .char '5' := (List.cons.inj isEpilogue).1.symm
          have isHeld : point ∈ clonePrologue := by simp [isPrologue]
          rw [isFive] at isHeld
          exact absurd isHeld (by decide)
  · rintro ⟨middle, framed⟩
    rw [framed]
    exact ⟨⟨middle ++ cloneEpilogue, by simp⟩, List.suffix_append _ _⟩

/-- The kind of code that delegates, by the first address that it pushes and by its text. -/
inductive IsKind (code : Code) : ProxyKind → Prop where
  | minimal {address : List UInt8} {middle : Text}
      (isFirst : IsFirstAddress code.instructions address) (framed : code.IsFramed middle) :
      IsKind code (.minimal (Address.spelling address))
  | direct {address : List UInt8} (isFirst : IsFirstAddress code.instructions address)
      (unframed : ∀ middle, ¬ code.IsFramed middle) :
      IsKind code (.direct (Address.spelling address))
  | implementation (noAddress : ∀ instruction ∈ code.instructions, ¬ instruction.PushesAddress)
      (mentioned : implementationSelector <:+: code.text) : IsKind code .implementation
  | delegatecall (noAddress : ∀ instruction ∈ code.instructions, ¬ instruction.PushesAddress)
      (unmentioned : ¬ implementationSelector <:+: code.text) : IsKind code .delegatecall

/-- The kind that is told is the one that code is. -/
theorem isKind_proxyKind (code : Code) : code.IsKind code.proxyKind := by
  unfold proxyKind
  split
  next target names =>
    obtain ⟨address, isFirst, rfl⟩ := Instruction.literalTarget?_eq_some_iff.1 names
    split
    next isClone =>
      obtain ⟨middle, framed⟩ := isClone_iff.1 isClone
      exact .minimal isFirst framed
    next noClone =>
      exact .direct isFirst fun middle framed => noClone (isClone_iff.2 ⟨middle, framed⟩)
  next namesNone =>
    have noAddress := Instruction.literalTarget?_eq_none_iff.1 namesNone
    split
    next mentions => exact .implementation noAddress (Text.occursIn_iff_isInfix.1 mentions)
    next silent =>
      exact .delegatecall noAddress fun mentioned => silent (Text.occursIn_iff_isInfix.2 mentioned)

/-- Code is of one kind only. -/
theorem IsKind.eq_proxyKind (isKind : code.IsKind kind) : code.proxyKind = kind := by
  unfold proxyKind
  cases isKind with
  | minimal isFirst framed =>
      simp only [Instruction.literalTarget?_eq_some_iff.2 ⟨_, isFirst, rfl⟩]
      rw [if_pos (isClone_iff.2 ⟨_, framed⟩)]
  | direct isFirst unframed =>
      simp only [Instruction.literalTarget?_eq_some_iff.2 ⟨_, isFirst, rfl⟩]
      refine if_neg fun isClone => ?_
      obtain ⟨middle, framed⟩ := isClone_iff.1 isClone
      exact unframed middle framed
  | implementation noAddress mentioned =>
      simp only [Instruction.literalTarget?_eq_none_iff.2 noAddress]
      rw [if_pos (Text.occursIn_iff_isInfix.2 mentioned)]
  | delegatecall noAddress unmentioned =>
      simp only [Instruction.literalTarget?_eq_none_iff.2 noAddress]
      exact if_neg fun mentions => unmentioned (Text.occursIn_iff_isInfix.1 mentions)

/-- The kind that is told is the one that code is, and no other. -/
theorem isKind_iff : code.IsKind kind ↔ code.proxyKind = kind := by
  constructor
  · exact IsKind.eq_proxyKind
  · rintro rfl
    exact code.isKind_proxyKind

/-- Code has a finding if one of its instructions is `DELEGATECALL`. -/
theorem delegates_iff :
    code.delegates = true ↔ ∃ instruction ∈ code.instructions, instruction.opcode = 0xF4 := by
  simp [delegates, Instruction.delegates]

/-- Code has no finding exactly if none of its instructions is `DELEGATECALL`. -/
theorem finding?_eq_none_iff :
    code.finding? = none ↔ ∀ instruction ∈ code.instructions, instruction.opcode ≠ 0xF4 := by
  have delegates := @delegates_iff code
  unfold finding?
  split
  next isTrue =>
    obtain ⟨instruction, isRead, isCall⟩ := delegates.1 isTrue
    simp only [reduceCtorEq, false_iff, not_forall, not_not]
    exact ⟨instruction, isRead, isCall⟩
  next isFalse =>
    rw [delegates] at isFalse
    simpa using isFalse

/-- The finding about code, told by its instructions and its text. -/
theorem finding?_eq_some_iff {finding : Finding} :
    code.finding? = some finding ↔
      (∃ instruction ∈ code.instructions, instruction.opcode = 0xF4) ∧
        code.IsKind finding.kind ∧ finding.slots = Instruction.slotNames code.instructions := by
  rw [← delegates_iff, isKind_iff]
  unfold finding?
  split
  next isTrue =>
    obtain ⟨kind, slots⟩ := finding
    simp [isTrue, eq_comm]
  next isFalse => simp [isFalse]

/-! ## The template -/

/-- The bytes of the clone template before the address. -/
def cloneHead : List UInt8 :=
  [0x36, 0x3D, 0x3D, 0x37, 0x3D, 0x3D, 0x3D, 0x36, 0x3D, 0x73]

/-- The bytes of the clone template behind the address. -/
def cloneTail : List UInt8 :=
  [0x5A, 0xF4, 0x3D, 0x82, 0x80, 0x3E, 0x90, 0x3D, 0x91, 0x60, 0x2B, 0x57, 0xFD, 0x5B, 0xF3]

/-- The clone template around an address. -/
def clone (address : List UInt8) : Code :=
  ⟨cloneHead ++ address ++ cloneTail⟩

/-- What stands before the push of the address in the template, read as instructions. -/
def cloneOpening : List Instruction :=
  sweep 0 0 cloneHead.dropLast

/-- What stands behind the address in the template, read as instructions. -/
def cloneEnding : List Instruction :=
  sweep 30 0 cloneTail

/-- The text of the template is framed by its ends. -/
theorem isFramed_clone (address : List UInt8) :
    (clone address).IsFramed (Text.ofChars (Hex.ofBytes address)) := by
  have starts : clonePrologue = text ⟨cloneHead⟩ := by decide
  have ends : cloneEpilogue = text ⟨cloneTail⟩ := by decide
  rw [IsFramed, starts, ends]
  change text (append (append _ ⟨address⟩) _) = _
  rw [text_append, text_append]
  rfl

/-- Code that is framed with forty digits in the middle is the template around the address that they
spell. -/
theorem eq_clone_of_isFramed (framed : code.IsFramed middle) (exact : middle.length = 40) :
    ∃ address : List UInt8, address.length = 20 ∧ Text.ofChars (Hex.ofBytes address) = middle ∧
      code = clone address := by
  have even : (clonePrologue ++ middle).length = 2 * 30 := by
    rw [List.length_append, exact]
    rfl
  obtain ⟨start, ending, -, isStart, -⟩ := exists_append_of_text framed even
  have evenToo : clonePrologue.length = 2 * 10 := rfl
  obtain ⟨opening, ⟨address⟩, -, -, isMiddle⟩ := exists_append_of_text isStart evenToo
  have length := congrArg List.length isMiddle
  rw [length_text, exact] at length
  have complete : address.length = 20 := by
    change 2 * address.length = 40 at length
    omega
  refine ⟨address, complete, isMiddle, text_injective ?_⟩
  rw [framed, isFramed_clone, ← isMiddle]
  rfl

end Code

/-- A sweep that begins inside of an operand goes on behind it. -/
theorem sweep_append (offset : Nat) (passed rest : List UInt8) :
    sweep offset passed.length (passed ++ rest) = sweep (offset + passed.length) 0 rest := by
  induction passed generalizing offset with
  | nil => rfl
  | cons byte passed inductionHypothesis =>
      rw [List.length_cons, List.cons_append, sweep, inductionHypothesis]
      congr 1
      omega

namespace Code

open Instruction (IsFirstAddress)

variable {address : List UInt8}

/-- The template read as instructions: one of them pushes the address. -/
theorem instructions_clone (complete : address.length = 20) :
    (clone address).instructions = cloneOpening ++ ⟨9, 0x73, "PUSH20", address⟩ :: cloneEnding := by
  have pushed : (clone address).instructions = cloneOpening ++
      ⟨9, 0x73, "PUSH20", (address ++ cloneTail).take 20⟩ ::
        sweep 10 20 (address ++ cloneTail) := rfl
  rw [pushed, List.take_left' complete, ← complete, sweep_append, complete]
  rfl

/-- Around the address the template pushes nothing that is as long as an address. -/
theorem noPush_aroundAddress :
    ∀ instruction ∈ cloneOpening ++ cloneEnding, instruction.opcode ≠ 0x73 := by
  decide

/-- The template pushes no address but the one it is written around. -/
theorem pushesAddress_clone {instruction : Instruction} (complete : address.length = 20)
    (isRead : instruction ∈ (clone address).instructions) (pushes : instruction.PushesAddress) :
    instruction.operand = address := by
  rw [instructions_clone complete] at isRead
  simp only [List.mem_append, List.mem_cons] at isRead
  rcases isRead with isBefore | rfl | isAfter
  · exact absurd pushes.isPush (noPush_aroundAddress instruction (by simp [isBefore]))
  · rfl
  · exact absurd pushes.isPush (noPush_aroundAddress instruction (by simp [isAfter]))

/-- The template around an address pushes that address first. -/
theorem isFirstAddress_clone (isAddress : Address.IsPlausible address) :
    IsFirstAddress (clone address).instructions address := by
  refine ⟨cloneOpening, _, cloneEnding, instructions_clone isAddress.complete, ?_,
    ⟨rfl, isAddress⟩, rfl⟩
  intro instruction isBefore pushes
  exact noPush_aroundAddress instruction (List.mem_append_left _ isBefore) pushes.isPush

/-- The template delegates. -/
theorem delegates_clone (complete : address.length = 20) :
    ∃ instruction ∈ (clone address).instructions, instruction.opcode = 0xF4 := by
  obtain ⟨call, isEnding, isCall⟩ : ∃ call ∈ cloneEnding, call.opcode = 0xF4 := by decide
  refine ⟨call, ?_, isCall⟩
  rw [instructions_clone complete]
  simp [isEnding]

/-- The template around an address is found to be minimal, with that address as its target. -/
theorem finding?_clone (isAddress : Address.IsPlausible address) :
    (clone address).finding? =
      some ⟨.minimal (Address.spelling address),
        Instruction.slotNames (clone address).instructions⟩ :=
  finding?_eq_some_iff.2 ⟨delegates_clone isAddress.complete,
    .minimal (isFirstAddress_clone isAddress) (isFramed_clone address), rfl⟩

/-- The finding tells how code delegates: there is none exactly if no instruction is `DELEGATECALL`;
otherwise the first address that is pushed is the target, and where there is none the selector of
`implementation()` decides. Code is minimal if it starts and ends as the clone template does: the
template around an address is, and where just forty digits stand between the ends, minimal code is
the template around its target. -/
theorem finding?_tells (code : Code) :
    (code.finding? = none ↔ ∀ instruction ∈ code.instructions, instruction.opcode ≠ 0xF4) ∧
    (∀ finding, code.finding? = some finding ↔
      (∃ instruction ∈ code.instructions, instruction.opcode = 0xF4) ∧
        code.IsKind finding.kind ∧ finding.slots = Instruction.slotNames code.instructions) ∧
    (∀ address, Address.IsPlausible address →
      code.IsFramed (Text.ofChars (Hex.ofBytes address)) →
        ∃ finding, code.finding? = some finding ∧
          finding.kind = .minimal (Address.spelling address)) ∧
    ∀ finding target, code.finding? = some finding → finding.kind = .minimal target →
      ∃ middle, code.IsFramed middle ∧ (middle.length = 40 → target = "0x" ++ middle) := by
  refine ⟨finding?_eq_none_iff, fun _ => finding?_eq_some_iff, ?_, ?_⟩
  · intro address isAddress framed
    have isClone : code = clone address :=
      text_injective (framed.trans (isFramed_clone address).symm)
    rw [isClone, finding?_clone isAddress]
    exact ⟨_, rfl, rfl⟩
  · rintro finding target found isMinimal
    obtain ⟨-, isKind, -⟩ := finding?_eq_some_iff.1 found
    rw [isMinimal] at isKind
    cases isKind with
    | @minimal pushed middle isFirst framed =>
        refine ⟨middle, framed, fun exact => ?_⟩
        obtain ⟨address, complete, rfl, rfl⟩ := eq_clone_of_isFramed framed exact
        obtain ⟨instruction, isRead, pushes, rfl⟩ := isFirst.exists_pushes
        rw [pushesAddress_clone complete isRead pushes]
        rfl

/-- An address of twenty times the same byte. -/
def elevens : List UInt8 := List.replicate 20 0x11

/-- The template around an address is found, and its target is what stands between the ends. -/
theorem finding?_tells_clone :
    Address.IsPlausible elevens ∧
      (clone elevens).IsFramed (Text.ofChars (Hex.ofBytes elevens)) ∧
      ∃ finding, (clone elevens).finding? = some finding ∧
        finding.kind = .minimal "0x1111111111111111111111111111111111111111" ∧
        ∃ middle, (clone elevens).IsFramed middle ∧
          (middle.length = 40 → "0x1111111111111111111111111111111111111111" = "0x" ++ middle) := by
  obtain ⟨-, -, template, target⟩ := (clone elevens).finding?_tells
  have isAddress : Address.IsPlausible elevens := ⟨rfl, by decide, by decide⟩
  have framed := isFramed_clone elevens
  obtain ⟨finding, found, isMinimal⟩ := template elevens isAddress framed
  have spelled : Address.spelling elevens = "0x1111111111111111111111111111111111111111" := by
    decide
  rw [spelled] at isMinimal
  exact ⟨isAddress, framed, finding, found, isMinimal, target finding _ found isMinimal⟩

/-- The template around an address with one byte too many before its end. -/
def padded : Code :=
  ⟨cloneHead ++ elevens ++ 0x00 :: cloneTail⟩

/-- Code with a byte too many in the template is found to be minimal, though it is no template. -/
theorem finding?_padded :
    padded.finding? = some ⟨.minimal (Address.spelling elevens), []⟩ ∧
      ∀ middle, padded.IsFramed middle → middle.length ≠ 40 := by
  refine ⟨by decide +kernel, fun middle framed exact => ?_⟩
  have length := congrArg List.length framed
  rw [length_text, List.length_append, List.length_append, exact] at length
  exact absurd length (by decide)

end Code

end TokenLens
