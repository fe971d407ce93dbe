import Mathlib.Data.Bool.AllAny
import TokenLens.Proofs.Number.Numeral
import TokenLens.Proofs.Text.Blank

/-!
# The grammar of numerals in base sixteen

What the reader of numerals takes for a number, said without the reader: margins around a sign, a
mark, and digits with single underscores between them, where sign and mark may be missing. This is
much more than digits. `readHexInteger?_isSome_iff` says that the reader accepts exactly this.
-/

namespace TokenLens.Numeral

open TokenLens.Text

/-- Digits of a base with single underscores between them. -/
inductive IsDigitRun (base : Nat) : List Char → Prop
  | last {digit : Char} (isDigit : (digitValue? base digit).isSome) : IsDigitRun base [digit]
  | next {digit : Char} {rest : List Char} (isDigit : (digitValue? base digit).isSome)
      (isRun : IsDigitRun base rest) : IsDigitRun base (digit :: rest)
  | spaced {digit : Char} {rest : List Char} (isDigit : (digitValue? base digit).isSome)
      (isRun : IsDigitRun base rest) : IsDigitRun base (digit :: '_' :: rest)

/-- What may stand between the sign and the digits of a numeral in base sixteen. -/
def hexMarks : List (List Char) :=
  [[], ['0', 'x'], ['0', 'X'], ['0', 'x', '_'], ['0', 'X', '_']]

/-- What may stand in front of a numeral. -/
def signs : List (List Char) :=
  [[], ['+'], ['-']]

/-- A text is a numeral in base sixteen, by the plain spelling of its code points. -/
structure IsHexNumeral (before sign mark digits after : List Char) (text : Text) : Prop where
  isText : text.map plain = before ++ (sign ++ (mark ++ digits)) ++ after
  marginBefore : ∀ character ∈ before, isMargin character = true
  isSign : sign ∈ signs
  isMark : mark ∈ hexMarks
  isRun : IsDigitRun 16 digits
  marginAfter : ∀ character ∈ after, isMargin character = true

/-- A digit in base sixteen is none of the other parts of a numeral. -/
theorem isDigit_excludes {character : Char} (isDigit : (digitValue? 16 character).isSome) :
    isMargin character = false ∧ character ∉ ['+', '-', '_', 'x', 'X'] := by
  have ranges : (48 ≤ character.toNat ∧ character.toNat ≤ 57) ∨
      (97 ≤ character.toNat ∧ character.toNat ≤ 102) ∨
      (65 ≤ character.toNat ∧ character.toNat ≤ 70) := by
    obtain ⟨value, isValue⟩ := Option.isSome_iff_exists.1 isDigit
    simp only [digitValue?, Option.filter_eq_some_iff, decide_eq_true_eq] at isValue
    grind
  constructor
  · have noMargin : ∀ point ≤ 102, 48 ≤ point →
        (point == 32 || inRanges [(0x09, 0x0D)] point) = false := by decide
    rw [isMargin, Bool.or_eq_false_iff]
    have outside := Bool.or_eq_false_iff.1 (noMargin character.toNat (by omega) (by omega))
    refine ⟨decide_eq_false ?_, outside.2⟩
    rintro rfl
    exact absurd ranges (by decide)
  · intro isOther
    have outOfRange : ∀ other ∈ ['+', '-', '_', 'x', 'X'], ¬((48 ≤ other.toNat ∧ other.toNat ≤ 57) ∨
        (97 ≤ other.toNat ∧ other.toNat ≤ 102) ∨ (65 ≤ other.toNat ∧ other.toNat ≤ 70)) :=
      List.all_iff_forall_prop.1 (by decide)
    exact outOfRange character isOther ranges

namespace IsDigitRun

variable {base : Nat} {characters : List Char}

/-- A run of digits starts with a digit. -/
theorem begins (isRun : IsDigitRun base characters) :
    ∃ digit rest, characters = digit :: rest ∧ (digitValue? base digit).isSome := by
  cases isRun with
  | last isDigit => exact ⟨_, _, rfl, isDigit⟩
  | next isDigit _ => exact ⟨_, _, rfl, isDigit⟩
  | spaced isDigit _ => exact ⟨_, _, rfl, isDigit⟩

/-- A run of digits ends with a digit. -/
theorem ends (isRun : IsDigitRun base characters) :
    ∃ digit, characters.getLast? = some digit ∧ (digitValue? base digit).isSome := by
  induction isRun with
  | last isDigit => exact ⟨_, rfl, isDigit⟩
  | next _ isRun inductionHypothesis =>
      obtain ⟨digit, isLast, isDigit⟩ := inductionHypothesis
      exact ⟨digit, by rw [List.getLast?_cons, isLast]; rfl, isDigit⟩
  | spaced _ isRun inductionHypothesis =>
      obtain ⟨digit, isLast, isDigit⟩ := inductionHypothesis
      exact ⟨digit, by rw [List.getLast?_cons, List.getLast?_cons, isLast]; rfl, isDigit⟩

/-- Digits without anything between them are a run. -/
theorem of_digits (someDigit : characters ≠ [])
    (areDigits : ∀ character ∈ characters, (digitValue? base character).isSome) :
    IsDigitRun base characters := by
  induction characters with
  | nil => exact absurd rfl someDigit
  | cons first rest inductionHypothesis =>
      obtain ⟨isDigit, restDigits⟩ := List.forall_mem_cons.1 areDigits
      cases rest with
      | nil => exact .last isDigit
      | cons second others => exact .next isDigit (inductionHypothesis (by simp) restDigits)

end IsDigitRun

/-- The reader of digits reads exactly the runs of them. -/
theorem digitRun?_isSome_iff {characters : List Char} :
    (digitRun? 16 characters).isSome ↔ IsDigitRun 16 characters := by
  constructor
  · intro reads
    fun_induction digitRun? 16 characters with
    | case1 => cases reads
    | case2 digit =>
        rw [Option.isSome_map] at reads
        exact .last reads
    | case3 digit rest inductionHypothesis =>
        obtain ⟨values, isRun⟩ := Option.isSome_iff_exists.1 reads
        obtain ⟨value, isValue, others, isRest, -⟩ : ∃ value, digitValue? 16 digit = some value ∧
            ∃ others, digitRun? 16 rest = some others ∧ value :: others = values := by
          simpa [Option.bind_eq_some_iff] using isRun
        exact .spaced (by simp [isValue]) (inductionHypothesis (by simp [isRest]))
    | case4 digit next rest notUnderscore inductionHypothesis =>
        obtain ⟨values, isRun⟩ := Option.isSome_iff_exists.1 reads
        obtain ⟨value, isValue, others, isRest, -⟩ : ∃ value, digitValue? 16 digit = some value ∧
            ∃ others, digitRun? 16 (next :: rest) = some others ∧ value :: others = values := by
          simpa [Option.bind_eq_some_iff] using isRun
        exact .next (by simp [isValue]) (inductionHypothesis (by simp [isRest]))
  · intro isRun
    induction isRun with
    | last isDigit => rwa [digitRun?, Option.isSome_map]
    | @next digit rest isDigit isRun inductionHypothesis =>
        obtain ⟨value, isValue⟩ := Option.isSome_iff_exists.1 isDigit
        obtain ⟨values, isRest⟩ := Option.isSome_iff_exists.1 inductionHypothesis
        obtain ⟨second, others, rfl, isSecond⟩ := isRun.begins
        have notUnderscore : second ≠ '_' := by
          rintro rfl
          exact (isDigit_excludes isSecond).2 (by decide)
        rw [digitRun?.eq_4 _ _ _ _ (by simpa using notUnderscore), isValue, isRest]
        rfl
    | @spaced digit rest isDigit isRun inductionHypothesis =>
        obtain ⟨value, isValue⟩ := Option.isSome_iff_exists.1 isDigit
        obtain ⟨values, isRest⟩ := Option.isSome_iff_exists.1 inductionHypothesis
        rw [digitRun?, isValue, isRest]
        rfl

/-- Splitting off a sign takes nothing else away. -/
theorem exists_splitSign (characters : List Char) :
    ∃ sign ∈ signs, characters = sign ++ (splitSign characters).2 := by
  unfold splitSign
  split
  · exact ⟨['+'], by decide, rfl⟩
  · exact ⟨['-'], by decide, rfl⟩
  · exact ⟨[], by decide, rfl⟩

/-- Dropping a mark takes nothing else away. -/
theorem exists_dropHexMark (characters : List Char) :
    ∃ mark ∈ hexMarks, characters = mark ++ dropHexMark characters := by
  unfold dropHexMark
  split
  · exact ⟨['0', 'x', '_'], by decide, rfl⟩
  · exact ⟨['0', 'X', '_'], by decide, rfl⟩
  · exact ⟨['0', 'x'], by decide, rfl⟩
  · exact ⟨['0', 'X'], by decide, rfl⟩
  · exact ⟨[], by decide, rfl⟩

/-- A sign in front of what begins with none is split off. -/
theorem splitSign_append {sign characters : List Char} (isSign : sign ∈ signs)
    (begins : ∀ first ∈ characters.head?, first ≠ '+' ∧ first ≠ '-') :
    (splitSign (sign ++ characters)).2 = characters := by
  simp only [signs, List.mem_cons, List.not_mem_nil, or_false] at isSign
  rcases isSign with rfl | rfl | rfl
  · rw [List.nil_append]
    unfold splitSign
    split
    · exact absurd rfl (begins '+' rfl).1
    · exact absurd rfl (begins '-' rfl).2
    · rfl
  · rfl
  · rfl

/-- No letter of a mark stands behind the first digit of a run. -/
theorem IsDigitRun.second_ne {first : Char} {rest : List Char}
    (isRun : IsDigitRun 16 (first :: rest)) :
    ∀ second ∈ rest.head?, second ≠ 'x' ∧ second ≠ 'X' := by
  have noLetter {digit : Char} (isDigit : (digitValue? 16 digit).isSome) :
      digit ≠ 'x' ∧ digit ≠ 'X' := by
    constructor
    all_goals
      rintro rfl
      exact (isDigit_excludes isDigit).2 (by decide)
  cases isRun with
  | last _ => simp
  | next _ isRun =>
      obtain ⟨digit, others, rfl, isDigit⟩ := isRun.begins
      simpa using noLetter isDigit
  | spaced _ _ => simp

/-- A mark in front of digits is dropped. -/
theorem dropHexMark_append {mark digits : List Char} (isMark : mark ∈ hexMarks)
    (isRun : IsDigitRun 16 digits) : dropHexMark (mark ++ digits) = digits := by
  obtain ⟨first, rest, rfl, isDigit⟩ := isRun.begins
  have notUnderscore : first ≠ '_' := by
    rintro rfl
    exact (isDigit_excludes isDigit).2 (by decide)
  have noLetter := isRun.second_ne
  simp only [hexMarks, List.mem_cons, List.not_mem_nil, or_false] at isMark
  rcases isMark with rfl | rfl | rfl | rfl | rfl
  · match rest with
    | [] => simp [dropHexMark]
    | second :: others =>
        obtain ⟨notSmall, notCapital⟩ := noLetter second rfl
        simp [dropHexMark, notSmall, notCapital]
  · simp [dropHexMark, notUnderscore]
  · simp [dropHexMark, notUnderscore]
  · rfl
  · rfl

/-- What stands behind the sign of a numeral begins with a digit, be it that of the mark. -/
theorem IsDigitRun.marked_begins {mark digits : List Char} (isRun : IsDigitRun 16 digits)
    (isMark : mark ∈ hexMarks) :
    ∃ digit rest, mark ++ digits = digit :: rest ∧ (digitValue? 16 digit).isSome := by
  simp only [hexMarks, List.mem_cons, List.not_mem_nil, or_false] at isMark
  rcases isMark with rfl | rfl | rfl | rfl | rfl
  · exact isRun.begins
  · exact ⟨'0', _, rfl, by decide⟩
  · exact ⟨'0', _, rfl, by decide⟩
  · exact ⟨'0', _, rfl, by decide⟩
  · exact ⟨'0', _, rfl, by decide⟩

/-- A numeral without its margins is its sign, its mark and its digits. -/
theorem IsHexNumeral.core_eq {before sign mark digits after : List Char} {text : Text}
    (isNumeral : IsHexNumeral before sign mark digits after text) :
    plainSpelling text = sign ++ (mark ++ digits) := by
  obtain ⟨first, rest, begins, isDigit⟩ := isNumeral.isRun.marked_begins isNumeral.isMark
  rw [plainSpelling, isNumeral.isText]
  refine trimBoth_eq isNumeral.marginBefore isNumeral.marginAfter ?_ ?_
  · intro character isFirst
    rw [begins] at isFirst
    have isSign := isNumeral.isSign
    simp only [signs, List.mem_cons, List.not_mem_nil, or_false] at isSign
    rcases isSign with rfl | rfl | rfl
    · obtain rfl := Option.some.inj isFirst
      exact (isDigit_excludes isDigit).1
    · obtain rfl := Option.some.inj isFirst
      decide
    · obtain rfl := Option.some.inj isFirst
      decide
  · intro last isLast
    obtain ⟨digit, ends, isDigit⟩ := isNumeral.isRun.ends
    rw [← List.append_assoc, List.getLast?_append, ends] at isLast
    obtain rfl := Option.some.inj isLast
    exact (isDigit_excludes isDigit).1

/-- The reader of numerals in base sixteen accepts exactly the numerals of the grammar. -/
theorem readHexInteger?_isSome_iff {text : Text} :
    (readHexInteger? text).isSome ↔
      ∃ before sign mark digits after, IsHexNumeral before sign mark digits after text := by
  have reads : (readHexInteger? text).isSome =
      (digitRun? 16 (dropHexMark (splitSign (plainSpelling text)).2)).isSome := Option.isSome_map
  rw [reads, digitRun?_isSome_iff]
  constructor
  · intro isRun
    obtain ⟨before, after, cut, marginBefore, marginAfter⟩ :=
      exists_trimBoth isMargin (text.map plain)
    obtain ⟨sign, isSign, signed⟩ := exists_splitSign (plainSpelling text)
    obtain ⟨mark, isMark, marked⟩ := exists_dropHexMark (splitSign (plainSpelling text)).2
    refine ⟨before, sign, mark, _, after, ?_, marginBefore, isSign, isMark, isRun, marginAfter⟩
    rw [← marked, ← signed]
    exact cut
  · rintro ⟨before, sign, mark, digits, after, isNumeral⟩
    obtain ⟨first, rest, begins, isDigit⟩ := isNumeral.isRun.marked_begins isNumeral.isMark
    have noSign : ∀ character ∈ (mark ++ digits).head?, character ≠ '+' ∧ character ≠ '-' := by
      intro character isFirst
      rw [begins] at isFirst
      obtain rfl := Option.some.inj isFirst
      constructor
      all_goals
        rintro rfl
        exact (isDigit_excludes isDigit).2 (by decide)
    rw [isNumeral.core_eq, splitSign_append isNumeral.isSign noSign,
      dropHexMark_append isNumeral.isMark isNumeral.isRun]
    exact isNumeral.isRun

end TokenLens.Numeral
