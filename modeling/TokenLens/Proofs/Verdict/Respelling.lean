import TokenLens.Proofs.Evm.Presentation
import TokenLens.Standard.Registry
import TokenLens.Verdict.Classify

/-!
# Code that is spelled in another way

Of a text that spells code, nothing counts but the normal form: the digits in small letters, without
the mark and the blanks around (`Code.normalises_iff`). Texts with one normal form spell one code,
so whatever is asked about code is answered alike for them, and alike for the normal form itself
(`Code.respelled_alike`).
-/

namespace TokenLens

namespace Text

/-- A text is read as code that is spelled as a normal form. -/
def NormalisesTo (text normal : Text) : Prop :=
  ∃ code, Code.ofText text = .ok code ∧ code.text = normal

end Text

/-- Two documents of which every question about code is answered alike: what its instructions and
literals are, with and without their descriptions, whether it could implement an ABI, whether and
how it delegates, and what it is taken for. -/
structure Code.AreAlike (bytecode other : Json) : Prop where
  instructions : (Code.ofJson bytecode).map Code.instructions =
    (Code.ofJson other).map Code.instructions
  literals : (Code.ofJson bytecode).map Code.literals = (Code.ofJson other).map Code.literals
  described : ∀ registry : Registry, (Code.ofJson bytecode).map registry.describeLiterals =
    (Code.ofJson other).map registry.describeLiterals
  implements : ∀ abi, couldImplement abi bytecode = couldImplement abi other
  delegates : (Code.ofJson bytecode).map Code.delegates = (Code.ofJson other).map Code.delegates
  finding : (Code.ofJson bytecode).map Code.finding? = (Code.ofJson other).map Code.finding?
  verdict : ∀ registry strategy threshold, classifyCode bytecode registry strategy threshold =
    classifyCode other registry strategy threshold

namespace Code

variable {text other normal : Text} {code : Code}

/-- Documents that spell one code are alike. -/
theorem areAlike_of_ofJson {bytecode other : Json} (isCode : ofJson bytecode = .ok code)
    (isCodeToo : ofJson other = .ok code) : AreAlike bytecode other where
  instructions := by rw [isCode, isCodeToo]
  literals := by rw [isCode, isCodeToo]
  described _ := by rw [isCode, isCodeToo]
  implements _ := by rw [couldImplement, couldImplement, isCode, isCodeToo]
  delegates := by rw [isCode, isCodeToo]
  finding := by rw [isCode, isCodeToo]
  verdict _ _ _ := by rw [classifyCode, classifyCode, isCode, isCodeToo]

/-- The code that digits of whole bytes spell is spelled with them in small letters. -/
theorem text_toBytes {digits : List Char} (areWhole : Hex.AreWhole digits) :
    Code.text ⟨Hex.toBytes digits⟩ = Text.ofChars (digits.map Char.toLower) := by
  rw [Code.text, Hex.ofBytes_toBytes areWhole]

/-- A text has a normal form exactly if, without the blanks around it, it is an even number of
hexadecimal digits in either case, perhaps behind a mark. The normal form is those digits in small
letters. -/
theorem normalises_iff : text.NormalisesTo normal ↔ ∃ mark digits, Hex.IsMark mark ∧
    Hex.AreWhole digits ∧ Text.strip text = mark ++ Text.ofChars digits ∧
    normal = Text.ofChars (digits.map Char.toLower) := by
  constructor
  · rintro ⟨⟨bytes⟩, isCode, rfl⟩
    obtain ⟨before, mark, digits, after, presents, isBytes⟩ := ofText_eq_ok_iff.1 isCode
    obtain rfl : bytes = Hex.toBytes digits := isBytes
    exact ⟨mark, digits, presents.isMark, presents.areWhole, presents.strip_eq,
      text_toBytes presents.areWhole⟩
  · rintro ⟨mark, digits, isMark, areWhole, isCore, rfl⟩
    obtain ⟨before, after, isText, blankBefore, blankAfter⟩ :=
      Text.exists_trimBoth Text.isBlank text
    have presents : text.Presents before mark digits after :=
      ⟨isCore ▸ isText, blankBefore, isMark, areWhole, blankAfter⟩
    exact ⟨⟨Hex.toBytes digits⟩, ofText_eq_ok_iff.2 ⟨_, _, _, _, presents, rfl⟩,
      text_toBytes areWhole⟩

/-- Texts with one normal form spell one code, and so does the normal form. -/
theorem exists_ofText_of_normalises (normalises : text.NormalisesTo normal)
    (normalisesToo : other.NormalisesTo normal) :
    ∃ code, ofText text = .ok code ∧ ofText other = .ok code ∧ ofText normal = .ok code := by
  obtain ⟨code, isCode, rfl⟩ := normalises
  obtain ⟨otherCode, isOther, same⟩ := normalisesToo
  obtain rfl := text_injective same
  exact ⟨otherCode, isCode, isOther, ofText_text otherCode⟩

/-- A text has a normal form exactly if, without the blanks around it, it is an even number of
hexadecimal digits in either case, perhaps behind a mark, and the normal form is those digits in
small letters. It is the normal form of itself. Texts with one normal form are alike whatever is
asked about code, and they are like their normal form. -/
theorem respelled_alike :
    (∀ text normal : Text, text.NormalisesTo normal ↔ ∃ mark digits, Hex.IsMark mark ∧
      Hex.AreWhole digits ∧ Text.strip text = mark ++ Text.ofChars digits ∧
      normal = Text.ofChars (digits.map Char.toLower)) ∧
    ∀ text other normal : Text, text.NormalisesTo normal → other.NormalisesTo normal →
      AreAlike (.str text) (.str other) ∧ AreAlike (.str text) (.str normal) ∧
        normal.NormalisesTo normal := by
  refine ⟨fun _ _ => normalises_iff, fun text other normal normalises normalisesToo => ?_⟩
  obtain ⟨code, isCode, isOther, isNormal⟩ := exists_ofText_of_normalises normalises normalisesToo
  have isText : code.text = normal := by
    obtain ⟨found, isFound, rfl⟩ := normalises
    rw [Except.ok.inj (isCode.symm.trans isFound)]
  exact ⟨areAlike_of_ofJson isCode isOther, areAlike_of_ofJson isCode isNormal, code, isNormal,
    isText⟩

/-- Two spellings of code that delegates: one in capital letters behind a mark, with a space of
another script in front and the end of a line behind, and one that is normal. -/
theorem respelled_alike_capitals :
    let text : Text := "\u2003" ++ Text.ofString "0X60AAF4\n"
    text.NormalisesTo "60aaf4" ∧ Text.NormalisesTo "60aaf4" "60aaf4" ∧
      AreAlike (.str text) (.str "60aaf4") := by
  intro text
  obtain ⟨hasNormalForm, alike⟩ := respelled_alike
  have normalises : text.NormalisesTo "60aaf4" :=
    (hasNormalForm _ _).2 ⟨"0X", "60AAF4".toList, .inr (.inr rfl),
      ⟨List.all_eq_true.1 (by decide), by decide⟩, by decide, by decide⟩
  have normalisesToo : Text.NormalisesTo "60aaf4" "60aaf4" :=
    (alike text text _ normalises normalises).2.2
  exact ⟨normalises, normalisesToo, (alike _ _ _ normalises normalisesToo).1⟩

end Code

end TokenLens
