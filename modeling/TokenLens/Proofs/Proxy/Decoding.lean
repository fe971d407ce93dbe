import TokenLens.Proofs.Number.HexNumeral
import TokenLens.Proofs.Text.SmallDigits
import TokenLens.Proxy.Address

/-!
# What is taken for an address

A word should be written with forty or sixty-four hexadecimal digits, perhaps behind a mark. The
reader of answers takes all of these for what they stand for, and nothing else that is written with
digits only. But it takes more: it looks at the small form of a text, never at the digits in front
of the last forty, and these forty may be any numeral in base sixteen, with a sign, margins, a mark
of its own or underscores. `Address.ofJson_decodes` says for every answer what becomes of it.
-/

namespace TokenLens

open TokenLens.Text

namespace Hex

/-- A hexadecimal digit in small letters is one that a numeral in base sixteen may have. -/
theorem numeralDigit_toLower {character : Char} (digit : isDigit character = true) :
    Numeral.plain (.char character.toLower) = character.toLower ∧
      (Numeral.digitValue? 16 character.toLower).isSome := by
  have facts : ∀ character ∈ alphabet,
      Numeral.plain (.char character.toLower) = character.toLower ∧
      (Numeral.digitValue? 16 character.toLower).isSome :=
    List.all_iff_forall_prop.1 (by decide)
  exact facts character (mem_alphabet digit)

variable {digits : List Char}

/-- Digits in small letters are a numeral in base sixteen. -/
theorem readHexInteger?_toLower (someDigit : digits ≠ [])
    (areDigits : ∀ character ∈ digits, isDigit character = true) :
    (Numeral.readHexInteger? (Text.ofChars (digits.map Char.toLower))).isSome := by
  refine Numeral.readHexInteger?_isSome_iff.2 ⟨[], [], [], digits.map Char.toLower, [], ?_,
    by simp, by decide, by decide, ?_, by simp⟩
  · rw [Text.ofChars, List.map_map, List.nil_append, List.nil_append, List.nil_append,
      List.append_nil, List.map_map]
    exact List.map_congr_left fun character isDigit =>
      (numeralDigit_toLower (areDigits character isDigit)).1
  · refine Numeral.IsDigitRun.of_digits (by simpa using someDigit) fun character isSmall => ?_
    obtain ⟨digit, isDigit, rfl⟩ := List.mem_map.1 isSmall
    exact (numeralDigit_toLower (areDigits digit isDigit)).2

end Hex

namespace Text

/-- A text that writes a word as it should be written: an address of forty hexadecimal digits in
either case, perhaps with twenty-four further digits in front of it, perhaps behind a mark. -/
structure WritesWord (text mark : Text) (high low : List Char) : Prop where
  isText : text = mark ++ ofChars (high ++ low)
  isMark : Hex.IsMark mark
  areDigits : ∀ character ∈ high ++ low, Hex.isDigit character = true
  highLength : high.length = 0 ∨ high.length = 24
  lowLength : low.length = 40

/-- A text that passes for a word: in small letters and without a mark, a numeral of forty code
points, perhaps with any twenty-four code points in front of it. -/
structure PassesForWord (text mark high low : Text) : Prop where
  isSmall : lower text = mark ++ (high ++ low)
  isMark : mark = "0x" ∨ mark = [] ∧ ¬ofString "0x" <+: high ++ low
  highLength : high.length = 0 ∨ high.length = 24
  lowLength : low.length = 40
  isNumeral : ∃ before sign inner digits after,
    Numeral.IsHexNumeral before sign inner digits after low

end Text

namespace Address

variable {text mark high low : Text}

/-- The mark of what passes for a word is dropped. -/
theorem dropMark_of_passes (passes : text.PassesForWord mark high low) :
    Hex.dropMark (Text.lower text) = high ++ low := by
  rw [passes.isSmall]
  rcases passes.isMark with rfl | ⟨rfl, noMark⟩
  · rfl
  · rw [List.nil_append]
    unfold Hex.dropMark
    split
    next rest starts => exact absurd ⟨rest, starts.symm⟩ noMark
    next rest starts =>
      have isPart : CodePoint.char 'X' ∈ Text.lower text := by
        rw [passes.isSmall, List.nil_append, starts]
        simp
      exact absurd ⟨by decide, by decide⟩ (not_isCapital_of_mem_lower isPart)
    next => rfl

/-- The last forty of a word are what stands behind its first twenty-four, if it has these. -/
theorem lastForty_append (highLength : high.length = 0 ∨ high.length = 24)
    (lowLength : low.length = 40) : lastForty (high ++ low) = low := by
  rw [lastForty, List.length_append, lowLength]
  rcases highLength with isEmpty | isLong
  · rw [List.length_eq_zero_iff.1 isEmpty]
    rfl
  · rw [isLong, if_pos rfl, ← isLong, List.drop_left]

/-- In front of the last forty of a word stand twenty-four code points or none. -/
theorem exists_lastForty (word : Text) :
    ∃ high, word = high ++ lastForty word ∧ (high.length = 0 ∨ high.length = 24) := by
  unfold lastForty
  split
  next isLong =>
    refine ⟨word.take 24, (List.take_append_drop 24 word).symm, .inr ?_⟩
    rw [List.length_take, isLong]
    rfl
  next => exact ⟨[], rfl, .inl rfl⟩

/-- What passes for a word is read off its small form. -/
theorem passes_iff : (∃ mark high, text.PassesForWord mark high low) ↔
    low = lastForty (Hex.dropMark (Text.lower text)) ∧ low.length = 40 ∧
      (Numeral.readHexInteger? low).isSome := by
  constructor
  · rintro ⟨mark, high, passes⟩
    refine ⟨?_, passes.lowLength, Numeral.readHexInteger?_isSome_iff.2 passes.isNumeral⟩
    rw [dropMark_of_passes passes, lastForty_append passes.highLength passes.lowLength]
  · rintro ⟨isLast, lowLength, isNumeral⟩
    obtain ⟨mark, isMark, marked⟩ := Hex.exists_dropMark (Text.lower text)
    obtain ⟨high, cut, highLength⟩ := exists_lastForty (Hex.dropMark (Text.lower text))
    rw [← isLast] at cut
    refine ⟨mark, high, ?_, ?_, highLength, lowLength,
      Numeral.readHexInteger?_isSome_iff.1 isNumeral⟩
    · rw [← cut, ← marked]
    · rcases isMark with rfl | rfl | rfl
      · refine .inr ⟨rfl, ?_⟩
        rintro ⟨rest, starts⟩
        rw [cut, List.nil_append] at marked
        rw [marked, ← starts] at cut
        have shorter := congrArg List.length cut
        change rest.length = rest.length + 2 at shorter
        omega
      · exact .inl rfl
      · have isPart : CodePoint.char 'X' ∈ Text.lower text := by
          rw [marked]
          simp [Text.ofString, Text.ofChars]
        exact absurd ⟨by decide, by decide⟩ (not_isCapital_of_mem_lower isPart)

/-- What passes for a word stands for its last forty code points, unless these are vacant. -/
theorem ofText_of_passes (passes : text.PassesForWord mark high low) :
    ofText text = if isVacant low then .error .empty else .ok ("0x" ++ low) := by
  obtain ⟨isLast, lowLength, isNumeral⟩ := passes_iff.1 ⟨mark, high, passes⟩
  simp only [ofText, ← isLast, lowLength, isNumeral, decide_true, Bool.and_self, if_true]

/-- A text that does not pass for a word is no address. -/
theorem ofText_of_not_passes (never : ¬∃ mark high low, text.PassesForWord mark high low) :
    ofText text = .error (.invalid (.str text)) := by
  simp only [ofText]
  refine if_neg fun isAddress => never ?_
  rw [Bool.and_eq_true, decide_eq_true_eq] at isAddress
  obtain ⟨mark, high, passes⟩ := passes_iff.2 ⟨rfl, isAddress.1, isAddress.2⟩
  exact ⟨mark, high, _, passes⟩

/-- A text of digits behind a mark passes for a word just if it writes one. -/
theorem passes_of_digits {digits : List Char} (isMark : Hex.IsMark mark)
    (areDigits : ∀ character ∈ digits, Hex.isDigit character = true) :
    (∃ small high, (mark ++ Text.ofChars digits).PassesForWord small high low) ↔
      ∃ front back, (mark ++ Text.ofChars digits).WritesWord mark front back ∧
        low = Text.lower (Text.ofChars back) := by
  rw [passes_iff, Hex.dropMark_lower isMark areDigits]
  constructor
  · rintro ⟨isLast, lowLength, -⟩
    obtain ⟨high, cut, highLength⟩ :=
      exists_lastForty (Text.ofChars (digits.map Char.toLower))
    rw [← isLast, Text.ofChars, List.map_map] at cut
    obtain ⟨front, back, rfl, rfl, rfl⟩ := List.map_eq_append_iff.1 cut
    rw [List.length_map] at highLength lowLength
    have backDigits : ∀ character ∈ back, Hex.isDigit character = true :=
      fun character isBack => areDigits character (List.mem_append_right _ isBack)
    refine ⟨front, back, ⟨rfl, isMark, areDigits, highLength, lowLength⟩, ?_⟩
    rw [Hex.lower_ofChars backDigits, Text.ofChars, List.map_map]
  · rintro ⟨front, back, writes, rfl⟩
    have same : digits = front ++ back :=
      List.map_injective_iff.2 (fun _ _ => CodePoint.char.inj)
        (List.append_cancel_left writes.isText)
    subst same
    have backDigits : ∀ character ∈ back, Hex.isDigit character = true :=
      fun character isBack => areDigits character (List.mem_append_right _ isBack)
    have someDigit : back ≠ [] := by
      rintro rfl
      exact absurd writes.lowLength (by decide)
    rw [Hex.lower_ofChars backDigits]
    refine ⟨?_, ?_, Hex.readHexInteger?_toLower someDigit backDigits⟩
    · have cut : Text.ofChars ((front ++ back).map Char.toLower) =
          Text.ofChars (front.map Char.toLower) ++ Text.ofChars (back.map Char.toLower) := by
        simp [Text.ofChars]
      rw [cut, lastForty_append]
      · simpa [Text.ofChars] using writes.highLength
      · simpa [Text.ofChars] using writes.lowLength
    · simpa [Text.ofChars] using writes.lowLength

/-- What an answer holds, or that it stands for nothing, is decided by what passes for a word. -/
theorem ofJson_eq_iff {value : Json} {result : Except AddressError Text}
    (notInvalid : result ≠ .error (.invalid value)) :
    ofJson value = result ↔ ∃ text mark high low, value = .str text ∧
      text.PassesForWord mark high low ∧
      (if isVacant low then .error .empty else .ok ("0x" ++ low)) = result := by
  constructor
  · intro holds
    cases value with
    | str text =>
        by_cases passing : ∃ mark high low, text.PassesForWord mark high low
        · obtain ⟨mark, high, low, passes⟩ := passing
          exact ⟨text, mark, high, low, rfl, passes, (ofText_of_passes passes).symm.trans holds⟩
        · exact absurd (holds.symm.trans (ofText_of_not_passes passing)) notInvalid
    | _ => exact absurd holds.symm notInvalid
  · rintro ⟨text, mark, high, low, rfl, passes, rfl⟩
    exact ofText_of_passes passes

/-- An answer holds an address just if it is a text that passes for a word and stands for something.
Where the text stands for nothing, this is what is said, and of all else that the answer is no
address. Among texts of digits, perhaps behind a mark, only those pass that write a word: these are
read as they should be. -/
theorem ofJson_decodes (value : Json) :
    (∀ address, ofJson value = .ok address ↔ ∃ text mark high low, value = .str text ∧
      text.PassesForWord mark high low ∧ isVacant low = false ∧ address = "0x" ++ low) ∧
    (ofJson value = .error .empty ↔ ∃ text mark high low, value = .str text ∧
      text.PassesForWord mark high low ∧ isVacant low = true) ∧
    ((¬∃ text mark high low, value = .str text ∧ text.PassesForWord mark high low) →
      ofJson value = .error (.invalid value)) ∧
    ∀ mark digits, value = .str (mark ++ Text.ofChars digits) → Hex.IsMark mark →
      (∀ character ∈ digits, Hex.isDigit character = true) →
      ∀ address, ofJson value = .ok address ↔
        ∃ high low, (mark ++ Text.ofChars digits).WritesWord mark high low ∧
          isVacant (Text.lower (Text.ofChars low)) = false ∧
          address = "0x" ++ Text.lower (Text.ofChars low) := by
  have accepts : ∀ address, ofJson value = .ok address ↔ ∃ text mark high low,
      value = .str text ∧ text.PassesForWord mark high low ∧ isVacant low = false ∧
        address = "0x" ++ low := by
    intro address
    rw [ofJson_eq_iff (by simp)]
    grind
  refine ⟨accepts, ?_, ?_, ?_⟩
  · rw [ofJson_eq_iff (by simp)]
    grind
  · intro never
    cases value with
    | str text =>
        exact ofText_of_not_passes fun ⟨mark, high, low, passes⟩ =>
          never ⟨text, mark, high, low, rfl, passes⟩
    | _ => rfl
  · rintro mark digits rfl isMark areDigits address
    rw [accepts]
    constructor
    · rintro ⟨text, small, high, low, isText, passes, notVacant, rfl⟩
      obtain rfl := Json.str.inj isText
      obtain ⟨front, back, writes, rfl⟩ :=
        (passes_of_digits isMark areDigits).1 ⟨small, high, passes⟩
      exact ⟨front, back, writes, notVacant, rfl⟩
    · rintro ⟨front, back, writes, notVacant, rfl⟩
      obtain ⟨small, high, passes⟩ :=
        (passes_of_digits isMark areDigits).2 ⟨front, back, writes, rfl⟩
      exact ⟨_, small, high, _, rfl, passes, notVacant, rfl⟩

/-- A storage word in capital letters holds an address in small ones, and `null` holds none. -/
theorem ofJson_decodes_storageWord :
    let word := List.replicate 24 '0' ++ List.replicate 40 'A'
    ofJson (.str ("0x" ++ Text.ofChars word)) =
        .ok ("0x" ++ Text.ofChars (List.replicate 40 'a')) ∧
      ofJson .null = .error (.invalid .null) := by
  intro word
  have writes : (Text.ofString "0x" ++ Text.ofChars word).WritesWord "0x"
      (List.replicate 24 '0') (List.replicate 40 'A') :=
    ⟨rfl, .inr (.inl rfl), List.all_iff_forall_prop.1 (by decide), .inr rfl, rfl⟩
  have isSmall : Text.lower (Text.ofChars (List.replicate 40 'A')) =
      Text.ofChars (List.replicate 40 'a') := by decide
  constructor
  · refine ((ofJson_decodes _).2.2.2 "0x" word rfl writes.isMark writes.areDigits _).2
      ⟨_, _, writes, ?_, ?_⟩
    · rw [isSmall]
      decide
    · rw [isSmall]
  · refine (ofJson_decodes .null).2.2.1 ?_
    rintro ⟨text, mark, high, low, isText, -⟩
    cases isText

/-- A sign in front of thirty-nine digits passes for an address, though it is no digit. -/
theorem ofJson_takesSign :
    let text := Text.ofString "0x" ++ Text.ofChars ('+' :: List.replicate 39 '1')
    ofJson (.str text) = .ok text ∧ ¬∃ mark high low, text.WritesWord mark high low := by
  intro text
  have passes : text.PassesForWord "0x" [] (Text.ofChars ('+' :: List.replicate 39 '1')) :=
    ⟨by decide, .inl rfl, .inl rfl, rfl, [], ['+'], [], List.replicate 39 '1', [], by decide,
      by simp, by decide, by decide,
      .of_digits (by decide) (List.all_iff_forall_prop.1 (by decide)), by simp⟩
  constructor
  · exact ofText_of_passes passes
  · rintro ⟨mark, high, low, writes⟩
    have isPart : CodePoint.char '+' ∈ mark ++ Text.ofChars (high ++ low) := by
      rw [← writes.isText]
      decide
    rcases List.mem_append.1 isPart with ofMark | ofDigits
    · have isMark := writes.isMark
      revert ofMark
      rcases isMark with rfl | rfl | rfl
      · decide
      · decide
      · decide
    · obtain ⟨character, isDigit, isSign⟩ := List.mem_map.1 ofDigits
      obtain rfl := CodePoint.char.inj isSign
      exact absurd (writes.areDigits '+' isDigit) (by decide)

end Address

end TokenLens
