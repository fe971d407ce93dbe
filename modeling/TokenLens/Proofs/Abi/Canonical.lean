import TokenLens.Proofs.Abi.Selector
import TokenLens.Proofs.Text.SmallDigits

/-!
# Selectors are spelled by their numbers

A selector is given as bytes, or as hexadecimal digits in either case, perhaps behind a mark. Nothing
of that counts but the number that it stands for: whatever was given is spelled as this number
(`Selector.Given.spelling_eq_textOf`), with the shortest of its numerals
(`Selector.isShortest_iff`). So selectors can be compared, looked up and searched for by their
spellings, `Selector.Given.spelling_isCanonical`.
-/

namespace TokenLens

namespace Hex

/-- A numeral of a number in base sixteen: at least one digit, and no capital letter. -/
structure IsNumeral (numeral : Text) (number : Nat) : Prop where
  someDigit : numeral ≠ []
  noCapital : ∀ point ∈ numeral, ¬Text.IsCapital point
  stands : number? numeral = some number

/-- A numeral than which no numeral of its number is shorter. -/
structure IsShortest (numeral : Text) (number : Nat) : Prop where
  isNumeral : IsNumeral numeral number
  shortest : ∀ other, IsNumeral other number → numeral.length ≤ other.length

variable {numeral : Text} {number : Nat}

/-- A numeral is its own small form. -/
theorem IsNumeral.lower_eq (isNumeral : IsNumeral numeral number) :
    Text.lower numeral = numeral := by
  obtain ⟨characters, -, isText, areDigits, -⟩ := exists_digits_of_number? isNumeral.stands
  refine Text.lower_of_plain fun point isPoint => ⟨?_, isNumeral.noCapital point isPoint⟩
  rw [isText] at isPoint
  obtain ⟨character, isDigit, rfl⟩ := List.mem_map.1 isPoint
  exact (toLower_isDigit (areDigits character isDigit)).1

end Hex

namespace Selector

variable {digits numeral : Text} {number : Nat}

/-- The spelling of a number is a numeral of it. -/
theorem isNumeral_textOf (number : Nat) : Hex.IsNumeral (textOf number) number where
  someDigit := textOf_ne_nil number
  noCapital point isPoint := by
    obtain ⟨value, small, rfl⟩ := exists_digit_of_mem_textOf isPoint
    exact (Hex.digit_isSmall small).2
  stands := number?_textOf number

/-- A number is told by its spelling. -/
theorem textOf_injective : Function.Injective textOf := by
  intro number other same
  have stands := number?_textOf number
  rw [same, number?_textOf] at stands
  exact (Option.some.inj stands).symm

/-- The small form of digits without the zeros in front is the spelling of their number. -/
theorem dropLeadingZeros_lower (stands : Hex.number? digits = some number) :
    dropLeadingZeros (Text.lower digits) = textOf number := by
  obtain ⟨characters, values, rfl, areDigits, writes, small, rfl⟩ :=
    Hex.exists_digits_of_number? stands
  rw [Hex.lower_ofChars areDigits, writes, dropLeadingZeros_map_digit small]

/-- The small form of digits, of which there is at least one, ends in the spelling of their
number. -/
theorem textOf_isSuffix (stands : Hex.number? digits = some number) (someDigit : digits ≠ []) :
    textOf number <:+ Text.lower digits := by
  have someSmall : Text.lower digits ≠ [] := by
    obtain ⟨characters, -, rfl, areDigits, -⟩ := Hex.exists_digits_of_number? stands
    rw [Hex.lower_ofChars areDigits]
    simpa [Text.ofChars] using someDigit
  rw [← dropLeadingZeros_lower stands]
  exact dropLeadingZeros_isSuffix someSmall

/-- Every numeral of a number ends in the spelling of the number. -/
theorem textOf_isSuffix_of_isNumeral (isNumeral : Hex.IsNumeral numeral number) :
    textOf number <:+ numeral := by
  have isEnd := textOf_isSuffix isNumeral.stands isNumeral.someDigit
  rwa [isNumeral.lower_eq] at isEnd

/-- The spelling of a number is the shortest of its numerals, and the only one of that length. -/
theorem isShortest_iff : Hex.IsShortest numeral number ↔ numeral = textOf number := by
  constructor
  · intro isShortest
    have isEnd := textOf_isSuffix_of_isNumeral isShortest.isNumeral
    have notLonger := isShortest.shortest _ (isNumeral_textOf number)
    exact (isEnd.eq_of_length (Nat.le_antisymm isEnd.length_le notLonger)).symm
  · rintro rfl
    exact ⟨isNumeral_textOf number, fun other isNumeral =>
      (textOf_isSuffix_of_isNumeral isNumeral).length_le⟩

/-- A selector as it is given: bytes, or a text. -/
inductive Given where
  | raw (bytes : List UInt8)
  | written (text : Text)

namespace Given

/-- The spelling of a selector in either form. -/
def spelling : Given → Text
  | .raw bytes => ofBytes bytes
  | .written text => ofText text

/-- What is given as a text in small letters: the digits of bytes, or the small form of a text. -/
def smallText : Given → Text
  | .raw bytes => Text.ofChars (Hex.ofBytes bytes)
  | .written text => Text.lower text

/-- What is given stands for a number: bytes for theirs, and a text for that of its hexadecimal
digits, which are in either case and perhaps behind a mark. -/
inductive Denotes : Given → Nat → Prop where
  | raw (bytes : List UInt8) : Denotes (.raw bytes) (Hex.numberOf bytes)
  | written {mark digits : Text} {number : Nat} (isMark : Hex.IsMark mark)
      (stands : Hex.number? digits = some number) : Denotes (.written (mark ++ digits)) number

/-- What is given has no digit: there are no bytes, or nothing but a mark is written. -/
def IsVacant : Given → Prop
  | .raw bytes => bytes = []
  | .written text => Hex.IsMark text

variable {given other : Given} {otherNumber : Nat}

/-- Whatever stands for a number is spelled as the number. -/
theorem spelling_eq_textOf (denotes : given.Denotes number) : given.spelling = textOf number := by
  cases denotes with
  | raw bytes => exact ofBytes_eq_textOf bytes
  | written isMark stands =>
      rw [spelling, ofText, Hex.dropMark_lower_eq_lower isMark stands,
        dropLeadingZeros_lower stands]

/-- Unless it has no digit, what is given ends in its spelling. -/
theorem spelling_isSuffix (denotes : given.Denotes number) (notVacant : ¬given.IsVacant) :
    given.spelling <:+ given.smallText := by
  rw [spelling_eq_textOf denotes]
  cases denotes with
  | raw bytes =>
      rw [← ofBytes_eq_textOf]
      exact ofBytes_isSuffix notVacant
  | @written mark digits _ isMark stands =>
      have someDigit : digits ≠ [] := by
        rintro rfl
        exact notVacant (by simpa [IsVacant] using isMark)
      -- The mark that is dropped stands in front of the digits.
      obtain ⟨front, -, isLower⟩ := Hex.exists_dropMark (Text.lower (mark ++ digits))
      rw [Hex.dropMark_lower_eq_lower isMark stands] at isLower
      exact (textOf_isSuffix stands someDigit).trans ⟨front, isLower.symm⟩

/-- Two selectors are spelled alike just if they stand for one number. The spelling is the shortest
numeral of this number, with small letters; it is spelled as itself, and whatever stands for the
number ends in it in small letters, with any zeros in front, unless it has no digit. -/
theorem spelling_isCanonical (denotes : given.Denotes number)
    (denotesToo : other.Denotes otherNumber) :
    (given.spelling = other.spelling ↔ number = otherNumber) ∧
    (∀ numeral, Hex.IsShortest numeral number ↔ numeral = given.spelling) ∧
    ofText given.spelling = given.spelling ∧
    ∀ padded : Given, padded.Denotes number → ¬padded.IsVacant →
      given.spelling <:+ padded.smallText := by
  rw [spelling_eq_textOf denotes, spelling_eq_textOf denotesToo]
  refine ⟨textOf_injective.eq_iff, fun numeral => isShortest_iff, ?_, ?_⟩
  · have denotesAgain : Denotes (.written (textOf number)) number :=
      .written (.inl rfl) (number?_textOf number)
    exact spelling_eq_textOf denotesAgain
  · intro padded denotesPadded notVacant
    rw [← spelling_eq_textOf denotesPadded]
    exact spelling_isSuffix denotesPadded notVacant

/-- Four bytes with zeros in front, their selector in letters of either case behind a mark, and a
text that pads it to an odd number of digits. -/
theorem spelling_isCanonical_oddPadding :
    let given : Given := .raw [0x00, 0xFD, 0xD5, 0x8E]
    let other : Given := .written "0XFDd58E"
    let padded : Given := .written "0x000fdD58e"
    given.Denotes 0xFDD58E ∧ other.Denotes 0xFDD58E ∧ padded.Denotes 0xFDD58E ∧
      ¬padded.IsVacant ∧ given.spelling = other.spelling ∧ given.spelling = "fdd58e" ∧
      Hex.IsShortest given.spelling 0xFDD58E ∧ ofText given.spelling = given.spelling ∧
      given.spelling <:+ padded.smallText := by
  intro given other padded
  have isNumber : Hex.numberOf [0x00, 0xFD, 0xD5, 0x8E] = 0xFDD58E := by decide
  have denotes : given.Denotes 0xFDD58E := isNumber ▸ .raw _
  have denotesToo : other.Denotes 0xFDD58E :=
    @Denotes.written "0X" "FDd58E" _ (.inr (.inr rfl)) (by decide)
  have denotesPadded : padded.Denotes 0xFDD58E :=
    @Denotes.written "0x" "000fdD58e" _ (.inr (.inl rfl)) (by decide)
  have notVacant : ¬padded.IsVacant := by
    simp only [padded, IsVacant, Hex.IsMark]
    decide
  obtain ⟨alike, isShortest, again, isEnd⟩ := spelling_isCanonical denotes denotesToo
  exact ⟨denotes, denotesToo, denotesPadded, notVacant, alike.2 rfl, by decide,
    (isShortest _).2 rfl, again, isEnd padded denotesPadded notVacant⟩

end Given

end Selector

end TokenLens
