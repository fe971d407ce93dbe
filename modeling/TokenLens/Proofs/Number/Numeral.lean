import Mathlib.Data.List.TakeWhile
import TokenLens.Number.Numeral

/-!
# What numerals are written with

Each step of the reading of a numeral passes over characters of one kind: margins, a sign, the mark
of base sixteen, underscores and digits. So a text that reads as a number holds nothing else, which
`isPart_of_readHexInteger?` states for base sixteen.
-/

namespace TokenLens.Numeral

open TokenLens.Text

/-- Whether a character may stand in a numeral in base sixteen. -/
def isPart (character : Char) : Bool :=
  isMargin character || ['+', '-', '_', 'x', 'X'].contains character ||
    (digitValue? 16 character).isSome

/-- What is trimmed away is in the class that is trimmed. -/
theorem mem_trimBoth_or {α : Type} {inClass : α → Bool} {items : List α} {item : α}
    (isItem : item ∈ items) : item ∈ trimBoth inClass items ∨ inClass item = true := by
  have dropped {item : α} {items : List α} (isItem : item ∈ items) :
      item ∈ items.dropWhile inClass ∨ inClass item = true := by
    rw [← List.takeWhile_append_dropWhile (p := inClass) (l := items)] at isItem
    rcases List.mem_append.1 isItem with isTaken | isLeft
    · exact .inr (List.mem_takeWhile_imp isTaken)
    · exact .inl isLeft
  rcases dropped isItem with isLeft | inside
  · rcases dropped (List.mem_reverse.2 isLeft) with isLeft | inside
    · exact .inl (List.mem_reverse.2 isLeft)
    · exact .inr inside
  · exact .inr inside

/-- What a sign takes away is the sign. -/
theorem mem_splitSign_or {characters : List Char} {character : Char}
    (isCharacter : character ∈ characters) :
    character ∈ (splitSign characters).2 ∨ character = '+' ∨ character = '-' := by
  unfold splitSign
  split
  · grind
  · grind
  · exact .inl isCharacter

/-- What the mark of base sixteen takes away are its characters and the underscore behind it. -/
theorem mem_dropHexMark_or {characters : List Char} {character : Char}
    (isCharacter : character ∈ characters) :
    character ∈ dropHexMark characters ∨ character ∈ ['0', 'x', 'X', '_'] := by
  unfold dropHexMark
  split
  · grind
  · grind
  · grind
  · grind
  · exact .inl isCharacter

/-- A run of digits holds digits and underscores only. -/
theorem digit_or_underscore_of_digitRun? {base : Nat} {characters : List Char}
    {values : List Nat} (isRun : digitRun? base characters = some values) :
    ∀ character ∈ characters, character = '_' ∨ (digitValue? base character).isSome := by
  fun_induction digitRun? base characters generalizing values with
  | case1 => simp at isRun
  | case2 character =>
      obtain ⟨value, isValue, -⟩ := Option.map_eq_some_iff.1 isRun
      simp [isValue]
  | case3 character rest inductionHypothesis =>
      obtain ⟨value, isValue, others, isRest, -⟩ : ∃ value,
          digitValue? base character = some value ∧ ∃ others,
            digitRun? base rest = some others ∧ value :: others = values := by
        simpa [Option.bind_eq_some_iff] using isRun
      have later := inductionHypothesis isRest
      simp_all
  | case4 character next rest notUnderscore inductionHypothesis =>
      obtain ⟨value, isValue, others, isRest, -⟩ : ∃ value,
          digitValue? base character = some value ∧ ∃ others,
            digitRun? base (next :: rest) = some others ∧ value :: others = values := by
        simpa [Option.bind_eq_some_iff] using isRun
      have later := inductionHypothesis isRest
      simp_all

/-- A text that reads as a number in base sixteen is written with parts of numerals. -/
theorem isPart_of_readHexInteger? {text : Text}
    (reads : (readHexInteger? text).isSome) {character : Char}
    (isCharacter : character ∈ text.map plain) : isPart character = true := by
  rw [readHexInteger?, Option.isSome_map] at reads
  obtain ⟨values, isRun⟩ := Option.isSome_iff_exists.1 reads
  have isDigitOr := digit_or_underscore_of_digitRun? isRun
  have markParts : ∀ character ∈ ['0', 'x', 'X', '_'], isPart character = true :=
    List.all_eq_true.1 (by decide)
  rcases mem_trimBoth_or isCharacter with isInside | isMargin
  · rcases mem_splitSign_or isInside with isUnsigned | rfl | rfl
    · rcases mem_dropHexMark_or isUnsigned with isUnmarked | isMark
      · rcases isDigitOr character isUnmarked with rfl | isDigit
        · decide
        · simp [isPart, isDigit]
      · exact markParts character isMark
    · decide
    · decide
  · simp [isPart, isMargin]

end TokenLens.Numeral
