import TokenLens.Proofs.Evm.Presentation
import TokenLens.Proofs.Outcome
import TokenLens.Proofs.Proxy.Decoding
import TokenLens.Proofs.Proxy.Status

/-!
# Addresses that code holds and addresses that a node answers

Code names an address by pushing its bytes; a node answers with text that writes it. The two are
judged apart, the one by its bytes and the other by its small letters, and they agree: the bytes of
nothing are those that are written with zeros only or with the letter `f` only
(`Address.isVacant_ofBytes`). So an address has one spelling wherever it comes from, and two texts
of it are never taken for two contracts.
-/

namespace TokenLens

/-- Digits that spell bytes, in letters of either case. -/
def Hex.Spells (digits : List Char) (bytes : List UInt8) : Prop :=
  digits.map Char.toLower = Hex.ofBytes bytes

/-- The digits of bytes spell them. -/
theorem Hex.spells_ofBytes (bytes : List UInt8) : Hex.Spells (Hex.ofBytes bytes) bytes := by
  rw [Hex.Spells, ← Hex.ofBytes_toBytes (Hex.areWhole_ofBytes bytes), Hex.toBytes_ofBytes]

namespace Address

variable {text mark : Text} {high low : List Char} {bytes : List UInt8}

/-- Digits stand for nothing just if they are the digits of twenty zeros or of twenty ones. -/
theorem isVacant_ofBytes : isVacant (Text.ofChars (Hex.ofBytes bytes)) = true ↔
    bytes = List.replicate 20 0x00 ∨ bytes = List.replicate 20 0xFF := by
  have injective : Function.Injective fun bytes => Text.ofChars (Hex.ofBytes bytes) :=
    (List.map_injective_iff.2 fun _ _ => CodePoint.char.inj).comp
      (Function.LeftInverse.injective Hex.toBytes_ofBytes)
  have ofZeros : List.replicate 40 (CodePoint.char '0') =
      Text.ofChars (Hex.ofBytes (List.replicate 20 0x00)) := by decide
  have ofOnes : List.replicate 40 (CodePoint.char 'f') =
      Text.ofChars (Hex.ofBytes (List.replicate 20 0xFF)) := by decide
  rw [isVacant, Bool.or_eq_true, decide_eq_true_eq, decide_eq_true_eq, ofZeros, ofOnes]
  exact or_congr injective.eq_iff injective.eq_iff

/-- Twenty bytes can be the address of a contract just if their digits stand for something. -/
theorem isPlausible_iff (complete : bytes.length = 20) :
    IsPlausible bytes ↔ isVacant (Text.ofChars (Hex.ofBytes bytes)) = false := by
  rw [Bool.eq_false_iff, ne_eq, isVacant_ofBytes, not_or]
  exact ⟨fun isAddress => ⟨isAddress.notZero, isAddress.notOnes⟩,
    fun ⟨notZero, notOnes⟩ => ⟨complete, notZero, notOnes⟩⟩

/-- A word ends in the digits of twenty bytes. -/
theorem length_of_writes (writes : text.WritesWord mark high low)
    (spells : Hex.Spells low bytes) : bytes.length = 20 := by
  have sameLength := congrArg List.length spells
  rw [List.length_map, writes.lowLength, Hex.length_ofBytes] at sameLength
  omega

/-- A word that ends in the digits of bytes holds their spelling, if they can be the address of a
contract, and nothing else. -/
theorem ofJson_of_writes (writes : text.WritesWord mark high low)
    (spells : Hex.Spells low bytes) (address : Text) :
    ofJson (.str text) = .ok address ↔ IsPlausible bytes ∧ spelling bytes = address := by
  have lowDigits : ∀ character ∈ low, Hex.isDigit character = true :=
    fun character isLow => writes.areDigits character (List.mem_append_right _ isLow)
  have isSmall : Text.lower (Text.ofChars low) = Text.ofChars (Hex.ofBytes bytes) := by
    rw [Hex.lower_ofChars lowDigits, spells]
  obtain ⟨small, front, passes⟩ := (passes_of_digits writes.isMark writes.areDigits).2
    ⟨high, low, writes.isText ▸ writes, isSmall.symm⟩
  have held := ofText_of_passes passes
  rw [← writes.isText] at held
  rw [ofJson, held, isPlausible_iff (length_of_writes writes spells)]
  cases isVacant (Text.ofChars (Hex.ofBytes bytes)) with
  | true => simp
  | false => simp [spelling]

/-- The spelling of twenty bytes is a word that ends in their digits. -/
theorem writesWord_spelling (complete : bytes.length = 20) :
    (spelling bytes).WritesWord "0x" [] (Hex.ofBytes bytes) where
  isText := rfl
  isMark := .inr (.inl rfl)
  areDigits := (Hex.areWhole_ofBytes bytes).areDigits
  highLength := .inl rfl
  lowLength := by rw [Hex.length_ofBytes, complete]

end Address

namespace Instruction

variable {push : Instruction} {low : List Char}

/-- A push gives the spelling of its bytes as a target, if they can be the address of a contract,
and nothing else. -/
theorem literalTarget?_push (isPush : push.opcode = 0x73) (target : Text) :
    literalTarget? [push] = some target ↔
      Address.IsPlausible push.operand ∧ Address.spelling push.operand = target := by
  rw [literalTarget?, List.find?_singleton]
  split
  next pushes =>
    have isAddress := (pushesAddress_iff.1 pushes).isAddress
    rw [Option.map_some, Option.some_inj]
    exact ⟨fun isTarget => ⟨isAddress, isTarget⟩, And.right⟩
  next never =>
    refine iff_of_false (by simp) ?_
    rintro ⟨isAddress, -⟩
    exact never (pushesAddress_iff.2 ⟨isPush, isAddress⟩)

/-- Bytes that code pushes are a target just if an answer with their digits holds an address: the
digits alone, behind a mark, or at the end of a word of sixty-four, in letters of either case. That
is so for all bytes but those of nothing, and both give the digits in small letters behind `0x`,
which an answer holds as they are. Among other instructions a push is taken where none before it
is. -/
theorem literal_agrees (isPush : push.opcode = 0x73) (spells : Hex.Spells low push.operand)
    (text mark : Text) (high : List Char) (writes : text.WritesWord mark high low) :
    (∀ target, literalTarget? [push] = some target ↔ Address.ofJson (.str text) = .ok target) ∧
    (∀ target, Address.ofJson (.str text) = .ok target ↔
      Address.IsPlausible push.operand ∧
        target = "0x" ++ Text.ofChars (low.map Char.toLower)) ∧
    (∀ target, Address.ofJson (.str text) = .ok target →
      Address.ofJson (.str target) = .ok target) ∧
    ∀ before after, literalTarget? before = none →
      literalTarget? (before ++ push :: after) =
        (Address.ofJson (.str text)).toOption.or (literalTarget? after) := by
  have complete := Address.length_of_writes writes spells
  have held := Address.ofJson_of_writes writes spells
  have heldAgain := Address.ofJson_of_writes (Address.writesWord_spelling complete)
    (Hex.spells_ofBytes push.operand)
  have same (target : Text) : literalTarget? [push] = some target ↔
      Address.ofJson (.str text) = .ok target :=
    (literalTarget?_push isPush target).trans (held target).symm
  refine ⟨same, fun target => ?_, fun target holds => ?_, fun before after noneBefore => ?_⟩
  · rw [held, spells]
    exact and_congr_right fun _ => eq_comm
  · obtain ⟨isAddress, rfl⟩ := (held target).1 holds
    exact (heldAgain _).2 ⟨isAddress, rfl⟩
  · have agree : literalTarget? [push] = (Address.ofJson (.str text)).toOption := by
      refine Option.ext fun target => (same target).trans ⟨fun holds => ?_, eq_ok_of_toOption⟩
      rw [holds]
      rfl
    rw [← List.singleton_append, literalTarget?_append, literalTarget?_append, noneBefore,
      Option.none_or, agree]

/-- Bytes pushed as `ab` twenty times over are written `aB` behind twenty-four zeros. -/
theorem literal_agrees_mixedCase :
    let push : Instruction := ⟨0, 0x73, "PUSH20", List.replicate 20 0xAB⟩
    let low := (List.replicate 20 ['a', 'B']).flatten
    let word := Text.ofString "0X" ++ Text.ofChars (List.replicate 24 '0' ++ low)
    let spelled := Text.ofString "0x" ++ Text.ofChars (List.replicate 20 ['a', 'b']).flatten
    push.opcode = 0x73 ∧ Hex.Spells low push.operand ∧
      word.WritesWord "0X" (List.replicate 24 '0') low ∧
      literalTarget? [push] = some spelled ∧ Address.ofJson (.str word) = .ok spelled ∧
      Address.ofJson (.str spelled) = .ok spelled := by
  intro push low word spelled
  have spells : Hex.Spells low push.operand := by
    rw [Hex.Spells]
    decide
  have writes : word.WritesWord "0X" (List.replicate 24 '0') low :=
    ⟨rfl, .inr (.inr rfl), List.all_iff_forall_prop.1 (by decide), .inr rfl, rfl⟩
  have named : literalTarget? [push] = some spelled := by decide
  obtain ⟨same, -, keeps, -⟩ := literal_agrees rfl spells word "0X" _ writes
  have answered : Address.ofJson (.str word) = .ok spelled := (same spelled).1 named
  exact ⟨rfl, spells, writes, named, answered, keeps spelled answered⟩

end Instruction

end TokenLens
