import TokenLens.Proofs.Hex
import TokenLens.Proofs.Number.Numeral
import TokenLens.Proofs.Text.SmallLetters
import TokenLens.Proxy.Finding
import TokenLens.Proxy.Address

/-!
# Addresses in small letters

An address that an answer holds, or that code names itself, is its own small form. So two of them
differ exactly when their small forms do.
-/

namespace TokenLens

open TokenLens.Text

/-- A decimal digit of any script lies in a range of numerals. -/
theorem Text.inRanges_of_decimalDigitValue? {point : CodePoint} {value : Nat}
    (isDigit : decimalDigitValue? point = some value) :
    inRanges numeralRanges point.toNat = true := by
  obtain ⟨range, isFound, -⟩ := Option.map_eq_some_iff.1 isDigit
  have isRange : range ∈ numeralRanges :=
    List.mem_append_right _ (List.mem_of_find?_eq_some isFound)
  have within := List.find?_some isFound
  exact List.any_eq_true.2 ⟨range, isRange, within⟩

/-- White space lies in a range of numerals. -/
theorem Text.inRanges_of_isWhiteSpace {point : CodePoint} (isBlank : isWhiteSpace point = true) :
    inRanges numeralRanges point.toNat = true := by
  obtain ⟨range, isRange, within⟩ := List.any_eq_true.1 isBlank
  exact List.any_eq_true.2 ⟨range, List.mem_append_left _ isRange, within⟩

/-- What a numeral in base sixteen is written with is settled, unless it is a capital. -/
theorem Numeral.isSettled_of_readHexInteger? {text : Text} (reads : (readHexInteger? text).isSome)
    {point : CodePoint} (isPoint : point ∈ text) (noCapital : ¬IsCapital point) :
    IsSettled point := by
  by_cases isAscii : point.toNat < 0x80
  · exact isSettled_of_ascii isAscii noCapital
  · refine isSettled_of_inRanges (Nat.not_lt.1 isAscii) ?_
    have isPart := isPart_of_readHexInteger? reads (List.mem_map_of_mem isPoint)
    rw [plain, if_neg (by omega)] at isPart
    split at isPart
    next isBlank => exact inRanges_of_isWhiteSpace isBlank
    next notBlank =>
      split at isPart
      next value isDigit => exact inRanges_of_decimalDigitValue? isDigit
      next noDigit => exact absurd isPart (by decide)

namespace Address

/-- The mark in front of an address is settled. -/
theorem isSettled_mark : ∀ point ∈ Text.ofString "0x", IsSettled point := by
  intro point isPoint
  have small : point.toNat < 0x80 ∧ ¬(65 ≤ point.toNat ∧ point.toNat ≤ 90) := by
    revert point
    decide
  exact isSettled_of_ascii small.1 small.2

/-- What stays of a text without its mark is part of the text. -/
theorem mem_of_mem_dropMark {text : Text} {point : CodePoint}
    (isPoint : point ∈ Hex.dropMark text) : point ∈ text := by
  unfold Hex.dropMark at isPoint
  split at isPoint
  · exact List.mem_cons_of_mem _ (List.mem_cons_of_mem _ isPoint)
  · exact List.mem_cons_of_mem _ (List.mem_cons_of_mem _ isPoint)
  · exact isPoint

/-- The last forty code points of a word are part of the word. -/
theorem mem_of_mem_lastForty {word : Text} {point : CodePoint} (isPoint : point ∈ lastForty word) :
    point ∈ word := by
  unfold lastForty at isPoint
  split at isPoint
  · exact List.mem_of_mem_drop isPoint
  · exact isPoint

/-- The address that the text of an answer holds is its own small form. -/
theorem lower_ofText {text address : Text} (holds : ofText text = .ok address) :
    Text.lower address = address := by
  simp only [ofText] at holds
  split at holds
  next isAddress =>
    split at holds
    next => cases holds
    next =>
      obtain rfl := Except.ok.inj holds
      rw [Bool.and_eq_true] at isAddress
      refine lower_eq_self fun point isPoint => ?_
      rcases List.mem_append.1 isPoint with isMark | isDigit
      · exact isSettled_mark point isMark
      · have isSmall : point ∈ Text.lower text :=
          mem_of_mem_dropMark (mem_of_mem_lastForty isDigit)
        exact Numeral.isSettled_of_readHexInteger? isAddress.2 isDigit
          (not_isCapital_of_mem_lower isSmall)
  next => cases holds

/-- The address that an answer holds is its own small form. -/
theorem lower_ofJson {value : Json} {address : Text} (holds : ofJson value = .ok address) :
    Text.lower address = address := by
  unfold ofJson at holds
  split at holds
  · exact lower_ofText holds
  · cases holds

end Address

/-- The hexadecimal text of bytes is settled. -/
theorem Hex.isSettled_ofBytes {bytes : List UInt8} :
    ∀ point ∈ Text.ofChars (Hex.ofBytes bytes), IsSettled point := by
  intro point isPoint
  obtain ⟨character, isCharacter, rfl⟩ := List.mem_map.1 isPoint
  obtain ⟨value, small, rfl⟩ := Hex.exists_digit_of_mem_ofBytes isCharacter
  obtain ⟨isAscii, noCapital⟩ := Hex.digit_isSmall small
  exact isSettled_of_ascii isAscii noCapital

/-- The address that code names itself is its own small form. -/
theorem Instruction.lower_literalTarget? {instructions : List Instruction} {target : Text}
    (names : literalTarget? instructions = some target) : Text.lower target = target := by
  obtain ⟨instruction, -, rfl⟩ := Option.map_eq_some_iff.1 names
  refine lower_eq_self fun point isPoint => ?_
  rcases List.mem_append.1 isPoint with isMark | isDigit
  · exact Address.isSettled_mark point isMark
  · exact Hex.isSettled_ofBytes point isDigit

end TokenLens
