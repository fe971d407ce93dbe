/-!
# Texts

A text is a list of code points. Documents can name every code point by an escape, one half of a
surrogate pair as well, which is no character; so a code point is a character or such a half. Two
halves side by side stay two code points.

Texts are ordered by the numbers of their code points. `before_trans`, `not_before_self` and
`eq_of_not_before` say that this is a strict linear order.
-/

namespace TokenLens

/-- A code point: a character, or one half of a surrogate pair that stands alone, by its distance
from U+D800. -/
inductive CodePoint where
  | char (character : Char)
  | half (offset : Fin 0x800)
deriving DecidableEq, Repr, Inhabited

namespace CodePoint

/-- The number of a code point. -/
def toNat : CodePoint → Nat
  | .char character => character.toNat
  | .half offset => 0xD800 + offset

/-- The code point of a number up to 0x10FFFF. -/
def ofNat (number : Nat) : CodePoint :=
  if 0xD800 ≤ number ∧ number ≤ 0xDFFF then .half (Fin.ofNat 0x800 (number - 0xD800))
  else .char (Char.ofNat number)

/-- The character that a code point is, if it is one. -/
def char? : CodePoint → Option Char
  | .char character => some character
  | .half _ => none

/-- Code points with one number are the same. -/
theorem eq_of_toNat_eq {left right : CodePoint} (same : left.toNat = right.toNat) :
    left = right := by
  have outside (character : Char) (offset : Fin 0x800) :
      character.toNat ≠ 0xD800 + offset := by
    have valid : character.toNat < 0xD800 ∨ 0xDFFF < character.toNat ∧ character.toNat < 0x110000 :=
      character.valid
    omega
  cases left with
  | char leftCharacter =>
      cases right with
      | char rightCharacter => exact congrArg CodePoint.char (Char.toNat_inj.1 same)
      | half offset => exact absurd same (outside leftCharacter offset)
  | half leftOffset =>
      cases right with
      | char rightCharacter => exact absurd same.symm (outside rightCharacter leftOffset)
      | half rightOffset =>
          exact congrArg CodePoint.half (Fin.ext (Nat.add_left_cancel same))

end CodePoint

/-- A text. -/
abbrev Text := List CodePoint

namespace Text

/-- The text of characters. -/
def ofChars (characters : List Char) : Text :=
  characters.map .char

/-- The text of a string. -/
def ofString (string : String) : Text :=
  ofChars string.toList

instance : Coe String Text := ⟨ofString⟩

/-- The characters of a text in which no half of a pair stands alone. -/
def chars? : Text → Option (List Char)
  | [] => some []
  | .char character :: rest => (chars? rest).map (character :: ·)
  | .half _ :: _ => none

/-- The string of a text in which no half of a pair stands alone. -/
def toString? (text : Text) : Option String :=
  (chars? text).map String.ofList

/-- A text as far as a string can show it: U+FFFD stands for a half that stands alone. -/
def asString (text : Text) : String :=
  String.ofList (text.map fun point => (point.char?).getD (Char.ofNat 0xFFFD))

/-- Whether a text comes before another: at the first difference it has the smaller code point, or
ends. -/
def before : Text → Text → Bool
  | _, [] => false
  | [], _ :: _ => true
  | left :: lefts, right :: rights =>
      left.toNat < right.toNat || (left = right && before lefts rights)

/-- No text comes before itself. -/
@[simp]
theorem not_before_self (text : Text) : before text text = false := by
  induction text with
  | nil => rfl
  | cons point rest inductionHypothesis => simp [before, inductionHypothesis]

/-- What comes before a text comes before all that the text comes before. -/
theorem before_trans {left middle right : Text} (first : before left middle = true)
    (second : before middle right = true) : before left right = true := by
  induction left generalizing middle right with
  | nil =>
      cases right with
      | nil => simp [before] at second
      | cons point rest => rfl
  | cons leftPoint lefts inductionHypothesis =>
      cases middle with
      | nil => simp [before] at first
      | cons middlePoint middles =>
          cases right with
          | nil => simp [before] at second
          | cons rightPoint rights =>
              simp only [before, Bool.or_eq_true, decide_eq_true_eq, Bool.and_eq_true] at *
              rcases first with isLess | ⟨rfl, firstRest⟩
              · rcases second with isLessToo | ⟨rfl, _⟩
                · exact .inl (Nat.lt_trans isLess isLessToo)
                · exact .inl isLess
              · rcases second with isLess | ⟨rfl, secondRest⟩
                · exact .inl isLess
                · exact .inr ⟨rfl, inductionHypothesis firstRest secondRest⟩

/-- Of two different texts one comes before the other. -/
theorem eq_of_not_before {left right : Text} (notLess : before left right = false)
    (notGreater : before right left = false) : left = right := by
  induction left generalizing right with
  | nil =>
      cases right with
      | nil => rfl
      | cons point rest => simp [before] at notLess
  | cons leftPoint lefts inductionHypothesis =>
      cases right with
      | nil => simp [before] at notGreater
      | cons rightPoint rights =>
          simp only [before, Bool.or_eq_false_iff, decide_eq_false_iff_not] at notLess notGreater
          have same : leftPoint = rightPoint :=
            CodePoint.eq_of_toNat_eq
              (Nat.le_antisymm (Nat.not_lt.1 notGreater.1) (Nat.not_lt.1 notLess.1))
          subst same
          simp only [decide_true, Bool.true_and] at notLess notGreater
          rw [inductionHypothesis notLess.2 notGreater.2]

end Text

end TokenLens
