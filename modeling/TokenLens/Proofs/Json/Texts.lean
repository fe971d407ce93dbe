import Mathlib.Data.Bool.AllAny
import TokenLens.Json.Reader
import TokenLens.Json.Writer
import TokenLens.Proofs.Number.Written

/-!
# Written texts are read back

Every code point is written so that it can be read back, with one exception that lies in the format:
two code points that are the halves of a pair are written as the character that they spell is. So a
text is read back with such halves joined, `Text.joinHalves`. Most texts have none, and they come
back as they are.
-/

namespace TokenLens

/-- Whether two code points are the halves of a surrogate pair, in order. -/
def CodePoint.ArePair : CodePoint → CodePoint → Prop
  | .half first, .half second => first.val < 0x400 ∧ 0x400 ≤ second.val
  | _, _ => False

/-- A text in which each first half of a surrogate pair that has a second half behind it is the
character that both spell. -/
def Text.joinHalves : Text → Text
  | .half first :: .half second :: rest =>
      if first.val < 0x400 ∧ 0x400 ≤ second.val then
        Wide.paired (0xD800 + first) (0xD800 + second) :: joinHalves rest
      else .half first :: joinHalves (.half second :: rest)
  | point :: rest => point :: joinHalves rest
  | [] => []

namespace Text

/-- Nothing is joined with a character. -/
theorem joinHalves_cons_char (character : Char) (rest : Text) :
    joinHalves (.char character :: rest) = .char character :: joinHalves rest := by
  rw [joinHalves.eq_2 _ _ (by simp)]

/-- Nothing is joined with a half that has a character behind it. -/
theorem joinHalves_cons_cons_char (point : CodePoint) (character : Char) (rest : Text) :
    joinHalves (point :: .char character :: rest) =
      point :: .char character :: joinHalves rest := by
  rw [joinHalves.eq_2 _ _ (by simp), joinHalves_cons_char]

/-- Nothing is joined with a second half that stands first. -/
theorem joinHalves_cons_second {offset : Fin 0x800} (isSecond : 0x400 ≤ offset.val) (rest : Text) :
    joinHalves (.half offset :: rest) = .half offset :: joinHalves rest := by
  cases rest with
  | nil => rfl
  | cons next rest =>
      cases next with
      | char character => rw [joinHalves_cons_cons_char, joinHalves_cons_char]
      | half other => rw [joinHalves.eq_1, if_neg (by omega)]

/-- Of two halves only a first and a second are joined. -/
theorem joinHalves_cons_cons_first {offset other : Fin 0x800} (isFirst : other.val < 0x400)
    (rest : Text) :
    joinHalves (.half offset :: .half other :: rest) =
      .half offset :: joinHalves (.half other :: rest) := by
  rw [joinHalves.eq_1, if_neg (by omega)]

/-- A text without a pair of halves side by side has nothing to join. -/
theorem joinHalves_eq_self {text : Text}
    (apart : text.IsChain fun point next => ¬point.ArePair next) : joinHalves text = text := by
  induction text with
  | nil => rfl
  | cons point rest inductionHypothesis =>
      have later := inductionHypothesis apart.tail
      cases point with
      | char character => rw [joinHalves_cons_char, later]
      | half first =>
          match rest with
          | [] => rfl
          | .char character :: others => rw [joinHalves.eq_2 _ _ (by simp), later]
          | .half second :: others =>
              have noPair : ¬(first.val < 0x400 ∧ 0x400 ≤ second.val) :=
                (List.isChain_cons_cons.1 apart).1
              rw [joinHalves.eq_1, if_neg noPair, later]

/-- A text of characters has nothing to join. -/
@[simp]
theorem joinHalves_ofChars (characters : List Char) :
    joinHalves (ofChars characters) = ofChars characters := by
  induction characters with
  | nil => rfl
  | cons character rest inductionHypothesis =>
      change joinHalves (.char character :: ofChars rest) = _
      rw [joinHalves_cons_char, inductionHypothesis]
      rfl

/-- A first and a second half are joined. -/
theorem joinHalves_cons_cons_second {first second : Fin 0x800} (isFirst : first.val < 0x400)
    (isSecond : 0x400 ≤ second.val) (rest : Text) :
    joinHalves (.half first :: .half second :: rest) =
      Wide.paired (0xD800 + first) (0xD800 + second) :: joinHalves rest := by
  rw [joinHalves.eq_1, if_pos ⟨isFirst, isSecond⟩]

end Text

namespace Wide

variable {unit : Nat}

/-- The units that are first halves of pairs. -/
theorem isFirstHalf_iff : isFirstHalf unit = true ↔ 0xD800 ≤ unit ∧ unit ≤ 0xDBFF := by
  simp [isFirstHalf]

/-- The units that are not first halves of pairs. -/
theorem isFirstHalf_eq_false_iff :
    isFirstHalf unit = false ↔ ¬(0xD800 ≤ unit ∧ unit ≤ 0xDBFF) := by
  rw [← isFirstHalf_iff, Bool.not_eq_true]

/-- The units that are second halves of pairs. -/
theorem isSecondHalf_iff : isSecondHalf unit = true ↔ 0xDC00 ≤ unit ∧ unit ≤ 0xDFFF := by
  simp [isSecondHalf]

/-- The units that are not second halves of pairs. -/
theorem isSecondHalf_eq_false_iff :
    isSecondHalf unit = false ↔ ¬(0xDC00 ≤ unit ∧ unit ≤ 0xDFFF) := by
  rw [← isSecondHalf_iff, Bool.not_eq_true]

end Wide

namespace Json

open TokenLens.Text

/-- A unit is the number that its digits stand for. -/
theorem unit?_eq_number? (digits : Text) : unit? digits = Hex.number? digits := by
  rw [Hex.number?, Option.map_eq_bind]
  rfl

/-- Four hexadecimal digits are read as the unit that they were written for. -/
theorem exists_escapeUnit {unit : Nat} (fits : unit < 0x10000) :
    ∃ first second third fourth, escapeUnit unit = ['\\', 'u', first, second, third, fourth] ∧
      unit? [.char first, .char second, .char third, .char fourth] = some unit := by
  obtain ⟨values, isPadded, four, small, isValue⟩ :=
    Hex.exists_padded (show unit < 16 ^ 4 from fits)
  match values with
  | [first, second, third, fourth] =>
      refine ⟨Hex.digit first, Hex.digit second, Hex.digit third, Hex.digit fourth, ?_, ?_⟩
      · rw [escapeUnit, isPadded]
        rfl
      · rw [unit?_eq_number?, ← isValue]
        exact Hex.number?_map_digit small

/-- How a character is written between quotation marks. -/
inductive IsEscape (character : Char) : List Char → Prop
  | letter {letter : Char} (isLetter : letter ∈ ['"', '\\', 'n', 'r', 't', 'b', 'f'])
      (isName : unescaped? letter = some character) : IsEscape character ['\\', letter]
  | itself (visible : 0x20 ≤ character.toNat ∧ character.toNat ≤ 0x7E)
      (noMark : character ≠ '"' ∧ character ≠ '\\') : IsEscape character [character]
  | unit (short : character.toNat ≤ 0xFFFF) :
      IsEscape character (escapeUnit character.toNat)
  | pair (long : 0xFFFF < character.toNat) :
      IsEscape character (escapeUnit (0xD800 + (character.toNat - 0x10000) / 0x400) ++
        escapeUnit (0xDC00 + (character.toNat - 0x10000) % 0x400))

/-- The numbers of the characters that have a letter as their escape. -/
def lettered : List Nat :=
  [0x22, 0x5C, 0x0A, 0x0D, 0x09, 0x08, 0x0C]

/-- A character is written in one of the ways in which characters are written. -/
theorem isEscape_escapePoint (character : Char) :
    IsEscape character (escapePoint (.char character)) := by
  by_cases isLettered : (CodePoint.char character).toNat ∈ lettered
  · have named : ∀ number ∈ lettered, ['"', '\\', 'n', 'r', 't', 'b', 'f'].any fun letter =>
        unescaped? letter = some (Char.ofNat number) ∧
          escapePoint (.char (Char.ofNat number)) = ['\\', letter] := by
      decide
    obtain ⟨letter, isLetter, isName, isWritten⟩ :=
      List.any_iff_exists_prop.1 (named _ isLettered)
    rw [CodePoint.toNat, Char.ofNat_toNat] at isName isWritten
    rw [isWritten]
    exact .letter isLetter isName
  · simp only [lettered, List.mem_cons, List.not_mem_nil, or_false, not_or] at isLettered
    obtain ⟨notQuote, notBackslash, notFeed, notReturn, notTab, notBack, notForm⟩ := isLettered
    rw [escapePoint, if_neg notQuote, if_neg notBackslash, if_neg notFeed, if_neg notReturn,
      if_neg notTab, if_neg notBack, if_neg notForm]
    by_cases visible : (0x20 ≤ (CodePoint.char character).toNat &&
        (CodePoint.char character).toNat ≤ 0x7E) = true
    · rw [if_pos visible, CodePoint.toNat, Char.ofNat_toNat]
      rw [Bool.and_eq_true, decide_eq_true_eq, decide_eq_true_eq] at visible
      refine .itself visible ⟨?_, ?_⟩
      · rintro rfl
        exact notQuote rfl
      · rintro rfl
        exact notBackslash rfl
    · rw [if_neg visible]
      by_cases short : character.toNat ≤ 0xFFFF
      · rw [if_pos (show (CodePoint.char character).toNat ≤ 0xFFFF from short)]
        exact .unit short
      · rw [if_neg (show ¬(CodePoint.char character).toNat ≤ 0xFFFF from short)]
        exact .pair (Nat.not_le.1 short)

section ReadText

variable (half : Option Nat) (passed more : Text)

/-- The escape of a unit adds the unit. -/
theorem readText?_escapeUnit {unit : Nat} (fits : unit < 0x10000) :
    readText? half passed (ofChars (escapeUnit unit) ++ more) =
      readText? (addUnit half passed unit).1 (addUnit half passed unit).2 more := by
  obtain ⟨first, second, third, fourth, isEscape, isUnit⟩ := exists_escapeUnit fits
  rw [isEscape]
  change readText? half passed (.char '\\' :: .char 'u' :: .char first :: .char second ::
    .char third :: .char fourth :: more) = _
  rw [readText?, isUnit]

/-- A unit that opens no pair stands for itself where none is open. -/
theorem addUnit_none {unit : Nat} (notFirst : Wide.isFirstHalf unit = false) :
    addUnit none passed unit = (none, .ofNat unit :: passed) := by
  simp [addUnit, notFirst, settle]

/-- A unit that is no half stands for itself. -/
theorem addUnit_whole {unit : Nat} (notFirst : Wide.isFirstHalf unit = false)
    (notSecond : Wide.isSecondHalf unit = false) :
    addUnit half passed unit = (none, .ofNat unit :: settle half passed) := by
  cases half <;> simp [addUnit, notFirst, notSecond]

/-- A unit that is the first half of a pair opens one. -/
theorem addUnit_first {unit : Nat} (isFirst : Wide.isFirstHalf unit = true) :
    addUnit half passed unit = (some unit, settle half passed) := by
  have within := Wide.isFirstHalf_iff.1 isFirst
  have notSecond : Wide.isSecondHalf unit = false := Wide.isSecondHalf_eq_false_iff.2 (by omega)
  cases half <;> simp [addUnit, isFirst, notSecond]

/-- A unit that is the second half of a pair completes one that is open. -/
theorem addUnit_second (first : Nat) {unit : Nat} (isSecond : Wide.isSecondHalf unit = true) :
    addUnit (some first) passed unit = (none, Wide.paired first unit :: passed) := by
  simp [addUnit, isSecond]

/-- A character is read back. -/
theorem readText?_escapePoint_char (character : Char) :
    readText? half passed (ofChars (escapePoint (.char character)) ++ more) =
      readText? none (.char character :: settle half passed) more := by
  have valid : character.toNat < 0xD800 ∨ 0xDFFF < character.toNat ∧ character.toNat < 0x110000 :=
    character.valid
  have isPoint : CodePoint.ofNat character.toNat = .char character := by
    rw [CodePoint.ofNat, if_neg (by omega), Char.ofNat_toNat]
  generalize written : escapePoint (.char character) = escape
  have isEscape := isEscape_escapePoint character
  rw [written] at isEscape
  cases isEscape with
  | @letter letter isLetter isName =>
      have notUnit : letter ≠ 'u' := by
        rintro rfl
        exact absurd isLetter (by decide)
      change readText? half passed (.char '\\' :: .char letter :: more) = _
      rw [readText?.eq_4 _ _ _ _ (by simp [notUnit]), isName]
  | itself visible noMark =>
      change readText? half passed (.char character :: more) = _
      rw [readText?.eq_5 _ _ _ _ (by simpa using noMark.1) (by simp [noMark.2])
        (by simp [noMark.2]), if_neg]
      simp only [CodePoint.toNat, Bool.or_eq_true, decide_eq_true_eq]
      have notBackslash := noMark.2
      grind
  | unit short =>
      have notFirst : Wide.isFirstHalf character.toNat = false :=
        Wide.isFirstHalf_eq_false_iff.2 (by omega)
      have notSecond : Wide.isSecondHalf character.toNat = false :=
        Wide.isSecondHalf_eq_false_iff.2 (by omega)
      rw [readText?_escapeUnit half passed more (by omega),
        addUnit_whole half passed notFirst notSecond, isPoint]
  | pair long =>
      have isFirst : Wide.isFirstHalf (0xD800 + (character.toNat - 0x10000) / 0x400) = true :=
        Wide.isFirstHalf_iff.2 (by omega)
      have isSecond : Wide.isSecondHalf (0xDC00 + (character.toNat - 0x10000) % 0x400) = true :=
        Wide.isSecondHalf_iff.2 (by omega)
      have isPaired : Wide.paired (0xD800 + (character.toNat - 0x10000) / 0x400)
          (0xDC00 + (character.toNat - 0x10000) % 0x400) = .char character := by
        have whole : 0x10000 + (0xD800 + (character.toNat - 0x10000) / 0x400 - 0xD800) * 0x400 +
            (0xDC00 + (character.toNat - 0x10000) % 0x400 - 0xDC00) = character.toNat := by
          omega
        rw [Wide.paired, whole, isPoint]
      rw [ofChars, List.map_append, List.append_assoc, ← ofChars, ← ofChars,
        readText?_escapeUnit half passed _ (by omega), addUnit_first half passed isFirst,
        readText?_escapeUnit _ _ more (by omega), addUnit_second _ _ isSecond, isPaired]

end ReadText

/-- The code point of the unit that a half is. -/
theorem ofNat_unit (offset : Fin 0x800) : CodePoint.ofNat (0xD800 + offset.val) = .half offset := by
  have small := offset.isLt
  rw [CodePoint.ofNat, if_pos (by omega), Nat.add_sub_cancel_left]
  exact congrArg CodePoint.half (Fin.ext (Nat.mod_eq_of_lt small))

/-- A half is written as the escape of its unit. -/
theorem escapePoint_half (offset : Fin 0x800) :
    escapePoint (.half offset) = escapeUnit (0xD800 + offset.val) := by
  have small := offset.isLt
  have isNumber : (CodePoint.half offset).toNat = 0xD800 + offset.val := rfl
  rw [escapePoint]
  simp only [isNumber]
  rw [if_neg (by omega), if_neg (by omega), if_neg (by omega), if_neg (by omega),
    if_neg (by omega), if_neg (by omega), if_neg (by omega),
    if_neg (by simp only [Bool.and_eq_true, decide_eq_true_eq]; omega), if_pos (by omega)]

/-- A half that may be open, as a unit. -/
def unitOf (opened : Option (Fin 0x800)) : Option Nat :=
  opened.map fun offset => 0xD800 + offset.val

/-- A half that may be open, as a text. -/
def halfOf (opened : Option (Fin 0x800)) : Text :=
  (opened.map CodePoint.half).toList

/-- A half that stays alone is put in front of what was passed. -/
theorem settle_unitOf (opened : Option (Fin 0x800)) (passed : Text) :
    settle (unitOf opened) passed = halfOf opened ++ passed := by
  cases opened with
  | none => rfl
  | some offset => simp [settle, unitOf, halfOf, ofNat_unit]

/-- What is written between quotation marks is read back with halves joined, the half that may be
open before it included. -/
theorem readText?_escaped (opened : Option (Fin 0x800))
    (isFirst : ∀ offset ∈ opened, offset.val < 0x400) (passed text more : Text) :
    readText? (unitOf opened) passed
        (ofChars (text.flatMap escapePoint) ++ .char '"' :: more) =
      some (passed.reverse ++ joinHalves (halfOf opened ++ text), more) := by
  induction text generalizing opened passed with
  | nil =>
      change readText? (unitOf opened) passed (.char '"' :: more) = _
      rw [readText?, settle_unitOf, List.append_nil]
      cases opened with
      | none => simp [halfOf, joinHalves]
      | some offset => simp [halfOf, joinHalves]
  | cons point rest inductionHypothesis =>
      have split : ofChars ((point :: rest).flatMap escapePoint) ++ .char '"' :: more =
          ofChars (escapePoint point) ++
            (ofChars (rest.flatMap escapePoint) ++ .char '"' :: more) := by
        simp [ofChars]
      rw [split]
      have afterwards (passed : Text) :
          readText? none passed (ofChars (rest.flatMap escapePoint) ++ .char '"' :: more) =
            some (passed.reverse ++ joinHalves rest, more) :=
        inductionHypothesis none (by simp) passed
      cases point with
      | char character =>
          rw [readText?_escapePoint_char, afterwards, settle_unitOf]
          cases opened with
          | none => simp [halfOf, joinHalves_cons_char]
          | some first => simp [halfOf, joinHalves_cons_cons_char]
      | half offset =>
          have small := offset.isLt
          rw [escapePoint_half, readText?_escapeUnit _ _ _ (by omega)]
          by_cases opens : offset.val < 0x400
          · have isUnit : Wide.isFirstHalf (0xD800 + offset.val) = true :=
              Wide.isFirstHalf_iff.2 (by omega)
            have next (passed : Text) : readText? (some (0xD800 + offset.val)) passed
                (ofChars (rest.flatMap escapePoint) ++ .char '"' :: more) =
                  some (passed.reverse ++ joinHalves (.half offset :: rest), more) :=
              inductionHypothesis (some offset) (by simpa using opens) passed
            rw [addUnit_first _ _ isUnit, next, settle_unitOf]
            cases opened with
            | none => rfl
            | some first => simp [halfOf, joinHalves_cons_cons_first opens]
          · have completes : 0x400 ≤ offset.val := Nat.not_lt.1 opens
            have isSecond : Wide.isSecondHalf (0xD800 + offset.val) = true :=
              Wide.isSecondHalf_iff.2 (by omega)
            have notFirst : Wide.isFirstHalf (0xD800 + offset.val) = false :=
              Wide.isFirstHalf_eq_false_iff.2 (by omega)
            cases opened with
            | none =>
                rw [unitOf, Option.map_none, addUnit_none _ notFirst, afterwards, ofNat_unit]
                simp [halfOf, joinHalves_cons_second completes]
            | some first =>
                rw [unitOf, Option.map_some, addUnit_second _ _ isSecond, afterwards]
                simp [halfOf, joinHalves_cons_cons_second (isFirst first rfl) completes]

/-- A written text is read back with its halves joined. -/
theorem readText?_writeText (text more : Text) :
    readText? none [] (ofChars (text.flatMap escapePoint) ++ .char '"' :: more) =
      some (joinHalves text, more) :=
  readText?_escaped none (by simp) [] text more

end Json

end TokenLens
