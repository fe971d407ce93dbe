import Mathlib.Data.Bool.AllAny
import Mathlib.Data.List.Infix
import TokenLens.Proofs.Evm.Spelling
import TokenLens.Proofs.Text.Blank

/-!
# How code may be presented

Code is handed over as an even number of hexadecimal digits in either case, perhaps behind a mark
and with blanks around (`Code.ofText_eq_ok_iff`). Two such texts that are put side by side need not
be such a text; where they are, it is that of the two codes side by side
(`Code.eq_append_of_ofText`).
-/

namespace TokenLens

namespace Hex

/-- Digits of whole bytes: an even number of hexadecimal digits, each in either case. -/
structure AreWhole (digits : List Char) : Prop where
  areDigits : ∀ character ∈ digits, isDigit character = true
  even : digits.length % 2 = 0

/-- What may stand in front of digits: nothing, or one of the two marks. -/
def IsMark (mark : Text) : Prop :=
  mark = [] ∨ mark = "0x" ∨ mark = "0X"

/-- An even number of digits without two in front is none at all. -/
theorem eq_nil_of_short {digits : List Char} (even : digits.length % 2 = 0)
    (short : ∀ high low rest, digits = high :: low :: rest → False) : digits = [] := by
  cases digits with
  | nil => rfl
  | cons high rest =>
      cases rest with
      | nil => cases even
      | cons low rest => exact (short high low rest rfl).elim

/-- The digits of whole bytes side by side are read as the bytes side by side. -/
theorem toBytes_append {front : List Char} (even : front.length % 2 = 0) (back : List Char) :
    toBytes (front ++ back) = toBytes front ++ toBytes back := by
  induction front using toBytes.induct with
  | case1 high low rest inductionHypothesis =>
      have evenRest : rest.length % 2 = 0 := by
        rw [List.length_cons, List.length_cons] at even
        omega
      exact congrArg (byteOf high low :: ·) (inductionHypothesis evenRest)
  | case2 digits short =>
      obtain rfl := eq_nil_of_short even short
      rfl

/-- The bytes of digits are written as the digits in small letters. -/
theorem ofBytes_toBytes {digits : List Char} (areWhole : AreWhole digits) :
    ofBytes (toBytes digits) = digits.map Char.toLower := by
  obtain ⟨areDigits, even⟩ := areWhole
  induction digits using toBytes.induct with
  | case1 high low rest inductionHypothesis =>
      obtain ⟨highDigit, areLater⟩ := List.forall_mem_cons.1 areDigits
      obtain ⟨lowDigit, areRest⟩ := List.forall_mem_cons.1 areLater
      have evenRest : rest.length % 2 = 0 := by
        rw [List.length_cons, List.length_cons] at even
        omega
      have later := inductionHypothesis areRest evenRest
      rw [ofBytes] at later
      rw [toBytes, ofBytes, List.flatMap_cons, later, ofByte_byteOf highDigit lowDigit]
      rfl
  | case2 digits short =>
      obtain rfl := eq_nil_of_short even short
      rfl

/-- Digits of whole bytes, put side by side, are digits of whole bytes. -/
theorem AreWhole.append {front back : List Char} (first : AreWhole front)
    (second : AreWhole back) : AreWhole (front ++ back) := by
  constructor
  case areDigits =>
    intro character isDigit
    rcases List.mem_append.1 isDigit with isFirst | isSecond
    · exact first.areDigits character isFirst
    · exact second.areDigits character isSecond
  case even =>
    have evenFirst := first.even
    have evenSecond := second.even
    rw [List.length_append]
    omega

/-- The digits of bytes are digits of whole bytes. -/
theorem areWhole_ofBytes (bytes : List UInt8) : AreWhole (ofBytes bytes) := by
  constructor
  case areDigits =>
    intro character isOfBytes
    obtain ⟨value, small, rfl⟩ := exists_digit_of_mem_ofBytes isOfBytes
    rw [isDigit, digitValue?_digit small]
    rfl
  case even =>
    rw [length_ofBytes]
    omega

/-- A hexadecimal digit is neither a blank nor the letter of a mark. -/
theorem isDigit_excludes {character : Char} (digit : isDigit character = true) :
    Text.isBlank (.char character) = false ∧ character ≠ 'x' ∧ character ≠ 'X' := by
  have facts : ∀ character ∈ alphabet,
      Text.isBlank (.char character) = false ∧ character ≠ 'x' ∧ character ≠ 'X' :=
    List.all_iff_forall_prop.1 (by decide)
  exact facts character (mem_alphabet digit)

end Hex

/-- The letters of the two marks. -/
def Text.IsMarkLetter (point : CodePoint) : Prop :=
  point = .char 'x' ∨ point = .char 'X'

/-- A text that presents whole bytes: their digits, perhaps behind a mark, with blanks around. -/
structure Text.Presents (text : Text) (before mark : Text) (digits : List Char) (after : Text) :
    Prop where
  isText : text = before ++ (mark ++ Text.ofChars digits) ++ after
  blankBefore : ∀ point ∈ before, Text.isBlank point = true
  isMark : Hex.IsMark mark
  areWhole : Hex.AreWhole digits
  blankAfter : ∀ point ∈ after, Text.isBlank point = true

namespace Hex

variable {mark : Text} {digits : List Char}

/-- A mark is a zero with one of two letters behind it. -/
theorem IsMark.eq_nil_or_letter (isMark : IsMark mark) :
    mark = [] ∨ ∃ letter, Text.IsMarkLetter letter ∧ mark = [.char '0', letter] := by
  rcases isMark with isNothing | isSmall | isCapital
  · exact .inl isNothing
  · exact .inr ⟨.char 'x', .inl rfl, isSmall⟩
  · exact .inr ⟨.char 'X', .inr rfl, isCapital⟩

/-- No blank stands in a mark. -/
theorem IsMark.noBlank (isMark : IsMark mark) : ∀ point ∈ mark, Text.isBlank point = false := by
  rcases isMark with rfl | rfl | rfl
  · simp
  · decide
  · decide

/-- The mark in front of digits is dropped, and digits without a mark stay as they are. -/
theorem dropMark_append (isMark : IsMark mark)
    (areDigits : ∀ character ∈ digits, isDigit character = true) :
    dropMark (mark ++ Text.ofChars digits) = Text.ofChars digits := by
  rcases isMark with rfl | rfl | rfl
  · match digits with
    | [] => rfl
    | [_] => simp [Text.ofChars, dropMark]
    | first :: second :: rest =>
        obtain ⟨-, noSmall, noCapital⟩ := isDigit_excludes (areDigits second (by simp))
        simp [Text.ofChars, dropMark, noSmall, noCapital]
  · rfl
  · rfl

/-- Dropping a mark takes nothing else away. -/
theorem exists_dropMark (text : Text) : ∃ mark, IsMark mark ∧ text = mark ++ dropMark text := by
  unfold dropMark
  split
  · exact ⟨"0x", .inr (.inl rfl), rfl⟩
  · exact ⟨"0X", .inr (.inr rfl), rfl⟩
  · exact ⟨[], .inl rfl, rfl⟩

end Hex

namespace Text

/-- The hexadecimal digits of a text, in order. -/
def digitsIn (text : Text) : List Char :=
  text.filterMap fun point => point.char?.filter Hex.isDigit

/-- The digits of joined texts are those of each. -/
theorem digitsIn_append (front back : Text) :
    digitsIn (front ++ back) = digitsIn front ++ digitsIn back :=
  List.filterMap_append

/-- Digits are digits. -/
theorem digitsIn_ofChars {digits : List Char}
    (areDigits : ∀ character ∈ digits, Hex.isDigit character = true) :
    digitsIn (ofChars digits) = digits := by
  induction digits with
  | nil => rfl
  | cons digit rest inductionHypothesis =>
      obtain ⟨isDigit, areRest⟩ := List.forall_mem_cons.1 areDigits
      have isKept : (CodePoint.char digit).char?.filter Hex.isDigit = some digit := by
        rw [CodePoint.char?, Option.filter_some, if_pos isDigit]
      rw [digitsIn, ofChars, List.map_cons, List.filterMap_cons]
      simp only [isKept]
      exact congrArg (digit :: ·) (inductionHypothesis areRest)

/-- Blanks are no digits. -/
theorem digitsIn_of_blank {text : Text} (blank : ∀ point ∈ text, isBlank point = true) :
    digitsIn text = [] := by
  refine List.filterMap_eq_nil_iff.2 fun point isPoint => ?_
  cases point with
  | half offset => rfl
  | char character =>
      refine Option.filter_eq_none_iff.2 fun digit isCharacter isDigit => ?_
      obtain rfl := Option.some.inj isCharacter
      have noBlank := (Hex.isDigit_excludes isDigit).1
      exact Bool.false_ne_true (noBlank.symm.trans (blank _ isPoint))

end Text

namespace Text.Presents

variable {text before mark after : Text} {digits : List Char}

/-- Stripping a text that presents digits leaves the digits and their mark. -/
theorem strip_eq (presents : text.Presents before mark digits after) :
    Text.strip text = mark ++ Text.ofChars digits := by
  have noBlank : ∀ point ∈ mark ++ Text.ofChars digits, Text.isBlank point = false := by
    intro point isPoint
    rcases List.mem_append.1 isPoint with isOfMark | isOfDigits
    · exact presents.isMark.noBlank point isOfMark
    · obtain ⟨character, isDigit, rfl⟩ := List.mem_map.1 isOfDigits
      exact (Hex.isDigit_excludes (presents.areWhole.areDigits character isDigit)).1
  rw [presents.isText]
  exact Text.trimBoth_eq presents.blankBefore presents.blankAfter
    (fun first isFirst => noBlank first (List.mem_of_mem_head? isFirst))
    (fun last isLast => noBlank last (List.mem_of_mem_getLast? isLast))

/-- What is left of a text that presents digits are the digits. -/
theorem dropMark_strip (presents : text.Presents before mark digits after) :
    Hex.dropMark (Text.strip text) = Text.ofChars digits := by
  rw [presents.strip_eq, Hex.dropMark_append presents.isMark presents.areWhole.areDigits]

/-- The digits with the blanks behind them hold no other digits. -/
theorem digitsIn_rest (presents : text.Presents before mark digits after) :
    Text.digitsIn (Text.ofChars digits ++ after) = digits := by
  rw [Text.digitsIn_append, Text.digitsIn_ofChars presents.areWhole.areDigits,
    Text.digitsIn_of_blank presents.blankAfter, List.append_nil]

/-- Without a mark the digits are all the digits of the text. -/
theorem digitsIn_eq (presents : text.Presents before [] digits after) :
    Text.digitsIn text = digits := by
  rw [presents.isText, List.nil_append, List.append_assoc, Text.digitsIn_append,
    Text.digitsIn_of_blank presents.blankBefore, presents.digitsIn_rest, List.nil_append]

/-- The letter of a mark stands nowhere but in the mark. -/
theorem not_mem_of_isMarkLetter (presents : text.Presents before mark digits after)
    {letter : CodePoint} (isLetter : Text.IsMarkLetter letter) :
    letter ∉ before ∧ letter ∉ Text.ofChars digits ++ after := by
  have noBlank : Text.isBlank letter = false := by
    rcases isLetter with rfl | rfl
    · decide
    · decide
  refine ⟨fun isBefore => ?_, fun isBehind => ?_⟩
  · exact Bool.false_ne_true (noBlank.symm.trans (presents.blankBefore letter isBefore))
  · rcases List.mem_append.1 isBehind with isOfDigits | isAfter
    · obtain ⟨character, isDigit, rfl⟩ := List.mem_map.1 isOfDigits
      obtain ⟨-, noSmall, noCapital⟩ :=
        Hex.isDigit_excludes (presents.areWhole.areDigits character isDigit)
      rcases isLetter with isSmall | isCapital
      · exact noSmall (CodePoint.char.inj isSmall)
      · exact noCapital (CodePoint.char.inj isCapital)
    · exact Bool.false_ne_true (noBlank.symm.trans (presents.blankAfter letter isAfter))

/-- Without a mark its letter stands nowhere. -/
theorem not_mem_of_noMark (presents : text.Presents before [] digits after) {letter : CodePoint}
    (isLetter : Text.IsMarkLetter letter) : letter ∉ text := by
  obtain ⟨notBefore, notBehind⟩ := presents.not_mem_of_isMarkLetter isLetter
  rw [presents.isText, List.nil_append, List.append_assoc, List.mem_append]
  exact fun isThere => isThere.elim notBefore notBehind

/-- Where the letter of a mark stands in a text, the mark ends. -/
theorem of_isMarkLetter (presents : text.Presents before mark digits after)
    {letter : CodePoint} (isLetter : Text.IsMarkLetter letter) {front back : Text}
    (split : text = front ++ letter :: back) :
    front = before ++ [.char '0'] ∧ back = Text.ofChars digits ++ after := by
  obtain ⟨notBefore, notBehind⟩ := presents.not_mem_of_isMarkLetter isLetter
  rcases presents.isMark.eq_nil_or_letter with rfl | ⟨other, -, rfl⟩
  · exact absurd (by simp [split]) (presents.not_mem_of_noMark isLetter)
  · have notInFront : letter ∉ before ++ [.char '0'] := by
      rw [List.mem_append, List.mem_singleton]
      rintro (isBefore | rfl)
      · exact notBefore isBefore
      · exact absurd isLetter (by simp [Text.IsMarkLetter])
    have splits : before ++ [.char '0'] ++ other :: (Text.ofChars digits ++ after) =
        front ++ letter :: back := by
      rw [← split, presents.isText]
      simp
    obtain ⟨isFront, -, isBack⟩ :=
      (List.append_cons_inj_of_notMem notInFront notBehind).1 splits
    exact ⟨isFront.symm, isBack.symm⟩

end Text.Presents

namespace Code

variable {text : Text} {code : Code}

/-- A text is read as code exactly if it presents whole bytes, and the code is those bytes. -/
theorem ofText_eq_ok_iff : ofText text = .ok code ↔ ∃ before mark digits after,
    text.Presents before mark digits after ∧ code.bytes = Hex.toBytes digits := by
  constructor
  · intro isRead
    unfold ofText at isRead
    split at isRead
    · cases isRead
    next digits isDigits =>
      split at isRead
      next areDigits =>
        split at isRead
        next even =>
          obtain rfl := Except.ok.inj isRead
          obtain ⟨before, after, isText, blankBefore, blankAfter⟩ :=
            Text.exists_trimBoth Text.isBlank text
          obtain ⟨mark, isMark, isCore⟩ := Hex.exists_dropMark (Text.strip text)
          rw [Text.chars?_eq_some_iff.1 isDigits] at isCore
          have areWhole : Hex.AreWhole digits := ⟨List.all_eq_true.1 areDigits, even⟩
          refine ⟨before, mark, digits, after, ⟨?_, blankBefore, isMark, areWhole, blankAfter⟩, rfl⟩
          rw [← isCore]
          exact isText
        · cases isRead
      · cases isRead
  · rintro ⟨before, mark, digits, after, presents, isCode⟩
    have areDigits : digits.all Hex.isDigit = true :=
      List.all_eq_true.2 presents.areWhole.areDigits
    rw [ofText, presents.dropMark_strip, Text.chars?_eq_some_iff.2 rfl]
    simp only [areDigits, presents.areWhole.even, if_true, ← isCode]

/-- The blanks around a text do not matter to what it is read as. -/
theorem ofText_strip_eq_ok_iff : ofText (Text.strip text) = .ok code ↔ ofText text = .ok code := by
  rw [ofText_eq_ok_iff, ofText_eq_ok_iff]
  constructor
  · rintro ⟨before, mark, digits, after, presents, isCode⟩
    obtain ⟨front, back, isText, blankFront, blankBack⟩ := Text.exists_trimBoth Text.isBlank text
    refine ⟨front ++ before, mark, digits, after ++ back, ⟨?_, ?_, presents.isMark,
      presents.areWhole, ?_⟩, isCode⟩
    · rw [isText, ← Text.strip, presents.isText]
      simp only [List.append_assoc]
    · exact List.forall_mem_append.2 ⟨blankFront, presents.blankBefore⟩
    · exact List.forall_mem_append.2 ⟨presents.blankAfter, blankBack⟩
  · rintro ⟨before, mark, digits, after, presents, isCode⟩
    refine ⟨[], mark, digits, [], ⟨?_, List.forall_mem_nil _, presents.isMark, presents.areWhole,
      List.forall_mem_nil _⟩, isCode⟩
    rw [presents.strip_eq, List.nil_append, List.append_nil]

/-- Digits of whole bytes are read as the bytes. -/
theorem ofText_ofChars {digits : List Char} (areWhole : Hex.AreWhole digits) :
    ofText (Text.ofChars digits) = .ok ⟨Hex.toBytes digits⟩ :=
  ofText_eq_ok_iff.2 ⟨[], [], digits, [], ⟨by simp, by simp, .inl rfl, areWhole, by simp⟩, rfl⟩

/-- The spelling of code is read as the code. -/
theorem ofText_text (code : Code) : ofText code.text = .ok code := by
  rw [text, ofText_ofChars (Hex.areWhole_ofBytes code.bytes), Hex.toBytes_ofBytes]

/-- Where texts that spell code spell code side by side as well, it is the two codes side by
side. -/
theorem eq_append_of_ofText {front back : Text} {first second whole : Code}
    (isFirst : ofText front = .ok first) (isSecond : ofText back = .ok second)
    (isWhole : ofText (front ++ back) = .ok whole) : whole = first.append second := by
  obtain ⟨before₁, mark₁, digits₁, after₁, presents₁, bytes₁⟩ := ofText_eq_ok_iff.1 isFirst
  obtain ⟨before₂, mark₂, digits₂, after₂, presents₂, bytes₂⟩ := ofText_eq_ok_iff.1 isSecond
  obtain ⟨before, mark, digits, after, presents, bytes⟩ := ofText_eq_ok_iff.1 isWhole
  suffices joined : digits = digits₁ ++ digits₂ by
    obtain ⟨wholeBytes⟩ := whole
    simp only at bytes
    rw [bytes, joined, Hex.toBytes_append presents₁.areWhole.even, ← bytes₁, ← bytes₂]
    rfl
  rcases presents₂.isMark.eq_nil_or_letter with rfl | ⟨letter, isLetter, rfl⟩
  · have digitsBack := presents₂.digitsIn_eq
    rcases presents₁.isMark.eq_nil_or_letter with rfl | ⟨letter, isLetter, rfl⟩
    · -- No mark at all, so there is none in the whole either.
      have noMark : mark = [] := by
        rcases presents.isMark.eq_nil_or_letter with isNothing | ⟨letter, isLetter, isMark⟩
        · exact isNothing
        · have isThere : letter ∈ front ++ back := by simp [presents.isText, isMark]
          rcases List.mem_append.1 isThere with isFront | isBack
          · exact absurd isFront (presents₁.not_mem_of_noMark isLetter)
          · exact absurd isBack (presents₂.not_mem_of_noMark isLetter)
      subst noMark
      rw [← presents.digitsIn_eq, Text.digitsIn_append, presents₁.digitsIn_eq, digitsBack]
    · have split : front ++ back =
          (before₁ ++ [.char '0']) ++ letter :: (Text.ofChars digits₁ ++ after₁ ++ back) := by
        rw [presents₁.isText]
        simp
      obtain ⟨-, rest⟩ := presents.of_isMarkLetter isLetter split
      rw [← presents.digitsIn_rest, ← rest, Text.digitsIn_append, presents₁.digitsIn_rest,
        digitsBack]
  · -- A mark in the middle has nothing but blanks in front.
    have split : front ++ back =
        (front ++ before₂ ++ [.char '0']) ++ letter :: (Text.ofChars digits₂ ++ after₂) := by
      rw [presents₂.isText]
      simp
    obtain ⟨isBefore, rest⟩ := presents.of_isMarkLetter isLetter split
    have noDigits : Text.digitsIn front = [] := by
      refine Text.digitsIn_of_blank fun point isPoint => presents.blankBefore point ?_
      rw [← List.append_cancel_right isBefore]
      exact List.mem_append_left _ isPoint
    have noneFirst : digits₁ = [] := by
      rw [presents₁.isText, List.append_assoc, List.append_assoc, Text.digitsIn_append,
        Text.digitsIn_append, presents₁.digitsIn_rest] at noDigits
      exact (List.append_eq_nil_iff.1 (List.append_eq_nil_iff.1 noDigits).2).2
    rw [noneFirst, List.nil_append, ← presents.digitsIn_rest, ← rest, presents₂.digitsIn_rest]

/-- Digits of whole bytes may be put behind a text that spells code and does not end in a blank. -/
theorem exists_ofText_append {front : Text} {first : Code} {digits : List Char}
    (isFirst : ofText front = .ok first)
    (ends : ∀ last ∈ front.getLast?, Text.isBlank last = false) (areWhole : Hex.AreWhole digits) :
    ∃ whole, ofText (front ++ Text.ofChars digits) = .ok whole := by
  obtain ⟨before, mark, digitsFirst, after, presents, -⟩ := ofText_eq_ok_iff.1 isFirst
  have noneAfter : after = [] := by
    by_contra someAfter
    have isLast : after.getLast someAfter ∈ front.getLast? := by
      rw [presents.isText, List.getLast?_append_of_ne_nil _ someAfter]
      exact List.getLast?_eq_some_getLast someAfter
    have blank := presents.blankAfter _ (List.getLast_mem someAfter)
    exact Bool.false_ne_true ((ends _ isLast).symm.trans blank)
  subst noneAfter
  refine ⟨⟨Hex.toBytes (digitsFirst ++ digits)⟩, ofText_eq_ok_iff.2
    ⟨before, mark, digitsFirst ++ digits, [], ⟨?_, presents.blankBefore, presents.isMark,
      presents.areWhole.append areWhole, by simp⟩, rfl⟩⟩
  simp [presents.isText, Text.ofChars]

end Code

end TokenLens
