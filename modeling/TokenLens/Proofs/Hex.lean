import TokenLens.Hex
import TokenLens.Proofs.Number.Digits

/-!
# Hexadecimal text and what it stands for

The text of bytes is two digits a byte, so it is read off the *halves* of the bytes, numbers below
sixteen, and has the value that the bytes have in base 256. Digits are read in either case and
written small.
-/

namespace TokenLens.Hex

/-- The two halves of each byte, the higher first. -/
def halves (bytes : List UInt8) : List Nat :=
  bytes.flatMap fun byte => [byte.toNat / 16, byte.toNat % 16]

/-- The number that bytes stand for, the most significant first. -/
def numberOf (bytes : List UInt8) : Nat :=
  Numeral.valueOf 256 (bytes.map UInt8.toNat)

/-- The number that a text of hexadecimal digits stands for. -/
def number? (text : Text) : Option Nat :=
  (text.mapM fun point : CodePoint => point.char?.bind digitValue?).map (Numeral.valueOf 16)

/-- Half a byte is less than sixteen. -/
theorem lt_of_mem_halves {bytes : List UInt8} {half : Nat} (isHalf : half ∈ halves bytes) :
    half < 16 := by
  obtain ⟨byte, -, isHalf⟩ := List.mem_flatMap.1 isHalf
  have small := byte.toNat_lt
  simp only [List.mem_cons, List.not_mem_nil, or_false] at isHalf
  rcases isHalf with rfl | rfl
  · omega
  · omega

/-- The digits of bytes are those of their halves. -/
theorem ofBytes_eq_map (bytes : List UInt8) : ofBytes bytes = (halves bytes).map digit := by
  rw [ofBytes, halves, List.map_flatMap]
  rfl

/-- The halves of bytes have the value of the bytes. -/
theorem valueOf_halves (bytes : List UInt8) :
    Numeral.valueOf 16 (halves bytes) = numberOf bytes := by
  suffices onwards : ∀ value : Nat,
      (halves bytes).foldl (fun value digit => value * 16 + digit) value =
        (bytes.map UInt8.toNat).foldl (fun value digit => value * 256 + digit) value from
    onwards 0
  induction bytes with
  | nil => intro value; rfl
  | cons byte rest inductionHypothesis =>
      intro value
      have whole : (value * 16 + byte.toNat / 16) * 16 + byte.toNat % 16 =
          value * 256 + byte.toNat := by omega
      rw [List.map_cons, List.foldl_cons, ← inductionHypothesis, ← whole]
      rfl

/-- A digit has the value it was written for. -/
theorem digitValue?_digit {value : Nat} (small : value < 16) :
    digitValue? (digit value) = some value := by
  revert value
  decide

/-- A digit is zero exactly for the value zero. -/
theorem digit_eq_zero_iff {value : Nat} (small : value < 16) : digit value = '0' ↔ value = 0 := by
  revert value
  decide

/-- A digit is no capital and lies in ASCII. -/
theorem digit_isSmall {value : Nat} (small : value < 16) :
    (digit value).toNat < 0x80 ∧ ¬(65 ≤ (digit value).toNat ∧ (digit value).toNat ≤ 90) := by
  revert value
  decide

/-- The text of values below sixteen stands for their value. -/
theorem number?_map_digit {values : List Nat} (small : ∀ value ∈ values, value < 16) :
    number? (Text.ofChars (values.map digit)) = some (Numeral.valueOf 16 values) := by
  have readBack : (Text.ofChars (values.map digit)).mapM
      (fun point : CodePoint => point.char?.bind digitValue?) = some values := by
    induction values with
    | nil => rfl
    | cons value rest inductionHypothesis =>
        obtain ⟨here, after⟩ := List.forall_mem_cons.1 small
        have first : (CodePoint.char (digit value)).char?.bind digitValue? = some value :=
          digitValue?_digit here
        have later := inductionHypothesis after
        simp only [Text.ofChars] at later
        simp only [Text.ofChars, List.map_cons, List.mapM_cons, first, later]
        rfl
  rw [number?, readBack]
  rfl

/-- The text of bytes holds digits of values below sixteen only. -/
theorem exists_digit_of_mem_ofBytes {bytes : List UInt8} {character : Char}
    (isDigit : character ∈ ofBytes bytes) : ∃ value < 16, character = digit value := by
  rw [ofBytes_eq_map] at isDigit
  obtain ⟨value, isHalf, rfl⟩ := List.mem_map.1 isDigit
  exact ⟨value, lt_of_mem_halves isHalf, rfl⟩

/-- The text of bytes holds two digits a byte. -/
theorem length_ofBytes (bytes : List UInt8) : (ofBytes bytes).length = 2 * bytes.length := by
  induction bytes with
  | nil => rfl
  | cons byte rest inductionHypothesis =>
      change (ofBytes rest).length + 2 = 2 * (rest.length + 1)
      omega

/-- Two digits stand for the byte that they were written for. -/
theorem byteOf_digit (byte : UInt8) :
    byteOf (digit (byte.toNat / 16)) (digit (byte.toNat % 16)) = byte := by
  have small := byte.toNat_lt
  rw [byteOf, digitValue?_digit (by omega), digitValue?_digit (by omega), Option.getD_some,
    Option.getD_some, Nat.div_add_mod, UInt8.ofNat_toNat]

/-- The digits of bytes are read back as the bytes. -/
theorem toBytes_ofBytes (bytes : List UInt8) : toBytes (ofBytes bytes) = bytes := by
  induction bytes with
  | nil => rfl
  | cons byte rest inductionHypothesis =>
      change byteOf _ _ :: toBytes (ofBytes rest) = byte :: rest
      rw [byteOf_digit, inductionHypothesis]

/-- The hexadecimal digits in either case. -/
def alphabet : List Char :=
  ['0', '1', '2', '3', '4', '5', '6', '7', '8', '9', 'a', 'b', 'c', 'd', 'e', 'f',
    'A', 'B', 'C', 'D', 'E', 'F']

/-- A hexadecimal digit is one of the alphabet. -/
theorem mem_alphabet {character : Char} (digit : isDigit character = true) :
    character ∈ alphabet := by
  have ranges : (48 ≤ character.toNat ∧ character.toNat ≤ 57) ∨
      (97 ≤ character.toNat ∧ character.toNat ≤ 102) ∨
      (65 ≤ character.toNat ∧ character.toNat ≤ 70) := by
    simp only [isDigit, digitValue?] at digit
    grind
  have inAlphabet : ∀ point ≤ 102, (48 ≤ point ∧ point ≤ 57) ∨ (97 ≤ point ∧ point ≤ 102) ∨
      (65 ≤ point ∧ point ≤ 70) → Char.ofNat point ∈ alphabet := by
    decide
  rw [← Char.ofNat_toNat character]
  exact inAlphabet character.toNat (by omega) ranges

/-- A hexadecimal digit in either case has a value below sixteen, which is written as the digit in
small letters. -/
theorem exists_digitValue {character : Char} (digit : isDigit character = true) :
    ∃ value < 16, digitValue? character = some value ∧ Hex.digit value = character.toLower := by
  have facts : ∀ character ∈ alphabet, (digitValue? character).any fun value =>
      value < 16 && Hex.digit value = character.toLower :=
    List.all_eq_true.1 (by decide)
  obtain ⟨value, isValue, writes⟩ :=
    (Option.any_eq_true _ _).1 (facts character (mem_alphabet digit))
  rw [Bool.and_eq_true, decide_eq_true_eq, decide_eq_true_eq] at writes
  exact ⟨value, writes.1, isValue, writes.2⟩

/-- The byte that two digits stand for is written with them in small letters. -/
theorem ofByte_byteOf {high low : Char} (highDigit : isDigit high = true)
    (lowDigit : isDigit low = true) : ofByte (byteOf high low) = [high.toLower, low.toLower] := by
  obtain ⟨first, smallFirst, isFirst, writtenFirst⟩ := exists_digitValue highDigit
  obtain ⟨second, smallSecond, isSecond, writtenSecond⟩ := exists_digitValue lowDigit
  have value : (byteOf high low).toNat = 16 * first + second := by
    rw [byteOf, isFirst, isSecond, Option.getD_some, Option.getD_some, UInt8.toNat_ofNat']
    omega
  have isHigh : (16 * first + second) / 16 = first := by omega
  have isLow : (16 * first + second) % 16 = second := by omega
  rw [ofByte, value, isHigh, isLow, writtenFirst, writtenSecond]

/-- A code point that has a value is a digit, which is written for this value in small letters. -/
theorem exists_character_of_value {point : CodePoint} {value : Nat}
    (hasValue : point.char?.bind digitValue? = some value) :
    ∃ character, point = .char character ∧ isDigit character = true ∧
      character.toLower = digit value ∧ value < 16 := by
  cases point with
  | half offset => cases hasValue
  | char character =>
      have isValue : digitValue? character = some value := hasValue
      have digit : isDigit character = true := by
        rw [isDigit, isValue]
        rfl
      obtain ⟨found, small, isFound, writes⟩ := exists_digitValue digit
      obtain rfl : found = value := Option.some.inj (isFound.symm.trans isValue)
      exact ⟨character, rfl, digit, writes.symm, small⟩

/-- A text that stands for a number consists of digits, which are written in small letters for
values that have this number. -/
theorem exists_digits_of_number? {text : Text} {number : Nat}
    (stands : number? text = some number) :
    ∃ digits values, text = Text.ofChars digits ∧
      (∀ character ∈ digits, isDigit character = true) ∧
      digits.map Char.toLower = values.map digit ∧
      (∀ value ∈ values, value < 16) ∧ Numeral.valueOf 16 values = number := by
  obtain ⟨values, areValues, isNumber⟩ := Option.map_eq_some_iff.1 stands
  suffices areWritten : ∃ digits, text = Text.ofChars digits ∧
      (∀ character ∈ digits, isDigit character = true) ∧
      digits.map Char.toLower = values.map digit ∧ ∀ value ∈ values, value < 16 by
    obtain ⟨digits, isText, areDigits, writes, small⟩ := areWritten
    exact ⟨digits, values, isText, areDigits, writes, small, isNumber⟩
  clear stands isNumber
  induction text generalizing values with
  | nil =>
      obtain rfl : [] = values := Option.some.inj areValues
      exact ⟨[], rfl, by simp, rfl, by simp⟩
  | cons point rest inductionHypothesis =>
      rw [List.mapM_cons] at areValues
      obtain ⟨value, hasValue, areValues⟩ := Option.bind_eq_some_iff.1 areValues
      obtain ⟨later, areLater, areValues⟩ := Option.bind_eq_some_iff.1 areValues
      obtain rfl : value :: later = values := Option.some.inj areValues
      obtain ⟨character, rfl, isHere, writesHere, smallHere⟩ := exists_character_of_value hasValue
      obtain ⟨digits, rfl, areDigits, writes, small⟩ := inductionHypothesis later areLater
      refine ⟨character :: digits, rfl, List.forall_mem_cons.2 ⟨isHere, areDigits⟩, ?_,
        List.forall_mem_cons.2 ⟨smallHere, small⟩⟩
      rw [List.map_cons, List.map_cons, writesHere, writes]

end TokenLens.Hex
