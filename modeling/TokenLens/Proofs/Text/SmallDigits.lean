import TokenLens.Proofs.Evm.Presentation
import TokenLens.Proofs.Text.SmallLetters

/-!
# Hexadecimal digits in small letters

Hexadecimal digits are put in small letters one by one and stay digits, and the small form of a mark
is a mark. So a mark can be dropped from digits before they are put in small letters or afterwards
(`Hex.dropMark_lower_eq_lower`).
-/

namespace TokenLens

open TokenLens.Text

namespace Hex

/-- The small form of a hexadecimal digit is a digit again, and the digit lies in ASCII. -/
theorem toLower_isDigit {character : Char} (digit : isDigit character = true) :
    (CodePoint.char character).toNat < 0x80 ∧
      smallPoint (.char character) = .char character.toLower ∧
      isDigit character.toLower = true := by
  have facts : ∀ character ∈ alphabet, (CodePoint.char character).toNat < 0x80 ∧
      smallPoint (.char character) = .char character.toLower ∧
      isDigit character.toLower = true :=
    List.all_iff_forall_prop.1 (by decide)
  exact facts character (mem_alphabet digit)

variable {mark : Text} {digits : List Char}

/-- The small form of digits are the digits in small letters. -/
theorem lower_ofChars (areDigits : ∀ character ∈ digits, isDigit character = true) :
    Text.lower (Text.ofChars digits) = Text.ofChars (digits.map Char.toLower) := by
  have isAscii : ∀ point ∈ Text.ofChars digits, point.toNat < 0x80 := by
    intro point isPoint
    obtain ⟨character, isDigit, rfl⟩ := List.mem_map.1 isPoint
    exact (toLower_isDigit (areDigits character isDigit)).1
  rw [lower_of_ascii isAscii, Text.ofChars, Text.ofChars, List.map_map, List.map_map]
  exact List.map_congr_left fun character isDigit =>
    (toLower_isDigit (areDigits character isDigit)).2.1

/-- Digits stay digits in small letters. -/
theorem toLower_areDigits (areDigits : ∀ character ∈ digits, isDigit character = true) :
    ∀ character ∈ digits.map Char.toLower, isDigit character = true := by
  intro character isSmall
  obtain ⟨digit, isDigit, rfl⟩ := List.mem_map.1 isSmall
  exact (toLower_isDigit (areDigits digit isDigit)).2.2

/-- What the small form of a marked text of digits is without its mark. -/
theorem dropMark_lower (isMark : IsMark mark)
    (areDigits : ∀ character ∈ digits, isDigit character = true) :
    dropMark (Text.lower (mark ++ Text.ofChars digits)) =
      Text.ofChars (digits.map Char.toLower) := by
  have isAscii : ∀ point ∈ mark ++ Text.ofChars digits, point.toNat < 0x80 := by
    intro point isPoint
    rcases List.mem_append.1 isPoint with ofMark | ofDigits
    · clear isPoint
      revert point
      rcases isMark with rfl | rfl | rfl
      · simp
      · decide
      · decide
    · obtain ⟨character, isDigit, rfl⟩ := List.mem_map.1 ofDigits
      exact (toLower_isDigit (areDigits character isDigit)).1
  have digitsAscii : ∀ point ∈ Text.ofChars digits, point.toNat < 0x80 :=
    fun point isPoint => isAscii point (List.mem_append_right _ isPoint)
  have smallMark : IsMark (mark.map smallPoint) := by
    rcases isMark with rfl | rfl | rfl
    · exact .inl rfl
    · exact .inr (.inl (by decide))
    · exact .inr (.inl (by decide))
  rw [lower_of_ascii isAscii, List.map_append, ← lower_of_ascii digitsAscii,
    lower_ofChars areDigits, dropMark_append smallMark (toLower_areDigits areDigits)]

/-- Digits whose mark is dropped from their small form are the small form of the digits alone. -/
theorem dropMark_lower_eq_lower {digits : Text} {number : Nat} (isMark : IsMark mark)
    (stands : number? digits = some number) :
    dropMark (Text.lower (mark ++ digits)) = Text.lower digits := by
  obtain ⟨characters, -, rfl, areDigits, -⟩ := exists_digits_of_number? stands
  rw [dropMark_lower isMark areDigits, lower_ofChars areDigits]

end Hex

end TokenLens
