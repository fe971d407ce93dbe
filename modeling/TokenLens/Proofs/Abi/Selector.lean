import Mathlib.Data.List.Infix
import Mathlib.Data.List.TakeWhile
import TokenLens.Abi.Selector
import TokenLens.Proofs.Hex

/-!
# One spelling for each number

The selector of bytes depends on nothing but the number that the bytes stand for
(`Selector.ofBytes_eq_textOf`), whatever zeros an encoder put in front, and it is the end of every
padded spelling.
-/

namespace TokenLens.Selector

open Numeral (valueOf)

/-- The spelling of a number as a selector. -/
def textOf (number : Nat) : Text :=
  match (Nat.digits 16 number).reverse with
  | [] => [.char '0']
  | digits => Text.ofChars (digits.map Hex.digit)

/-- A spelling stands for its number. -/
theorem number?_textOf (number : Nat) : Hex.number? (textOf number) = some number := by
  have small (digit : Nat) (isDigit : digit ∈ (Nat.digits 16 number).reverse) : digit < 16 :=
    Nat.digits_lt_base (by decide) (List.mem_reverse.1 isDigit)
  have value : valueOf 16 (Nat.digits 16 number).reverse = number := by
    rw [Numeral.valueOf_eq_ofDigits, List.reverse_reverse, Nat.ofDigits_digits]
  unfold textOf
  split
  next nothing =>
    rw [nothing] at value
    exact congrArg some value
  next => rw [Hex.number?_map_digit small, value]

/-- A spelling has at least one digit. -/
theorem textOf_ne_nil (number : Nat) : textOf number ≠ [] := by
  unfold textOf
  split
  next => exact List.cons_ne_nil _ _
  next someDigit => simpa [Text.ofChars] using someDigit

/-- A spelling holds digits of values below sixteen only. -/
theorem exists_digit_of_mem_textOf {number : Nat} {point : CodePoint}
    (isPart : point ∈ textOf number) : ∃ value < 16, point = .char (Hex.digit value) := by
  unfold textOf at isPart
  split at isPart
  next => exact ⟨0, by decide, List.mem_singleton.1 isPart⟩
  next =>
    obtain ⟨character, isCharacter, rfl⟩ := List.mem_map.1 isPart
    obtain ⟨value, isDigit, rfl⟩ := List.mem_map.1 isCharacter
    exact ⟨value, Nat.digits_lt_base (by decide) (List.mem_reverse.1 isDigit), rfl⟩

/-- The zeros in front of digits are those in front of their values. -/
theorem dropWhile_ofChars_map_digit {values : List Nat} (small : ∀ value ∈ values, value < 16) :
    (Text.ofChars (values.map Hex.digit)).dropWhile (· = .char '0') =
      Text.ofChars ((values.dropWhile (· = 0)).map Hex.digit) := by
  induction values with
  | nil => rfl
  | cons value rest inductionHypothesis =>
      obtain ⟨here, after⟩ := List.forall_mem_cons.1 small
      have isZero := Hex.digit_eq_zero_iff here
      have later := inductionHypothesis after
      simp only [Text.ofChars, List.map_cons] at later ⊢
      by_cases zero : value = 0
      · rw [isZero.2 zero, List.dropWhile_cons_of_pos (by simp), later,
          List.dropWhile_cons_of_pos (by simpa using zero)]
      · rw [List.dropWhile_cons_of_neg (by simpa [isZero] using zero),
          List.dropWhile_cons_of_neg (by simpa using zero)]
        rfl

/-- Without the zeros in front, digits are the spelling of the number that they stand for. -/
theorem dropLeadingZeros_map_digit {values : List Nat} (small : ∀ value ∈ values, value < 16) :
    dropLeadingZeros (Text.ofChars (values.map Hex.digit)) = textOf (valueOf 16 values) := by
  rw [dropLeadingZeros, dropWhile_ofChars_map_digit small,
    Numeral.dropWhile_zero_eq_digits (by decide) small, textOf]
  cases (Nat.digits 16 (valueOf 16 values)).reverse with
  | nil => rfl
  | cons digit rest => rfl

/-- The selector of bytes is the spelling of their number. -/
theorem ofBytes_eq_textOf (bytes : List UInt8) : ofBytes bytes = textOf (Hex.numberOf bytes) := by
  have small (half : Nat) (isHalf : half ∈ Hex.halves bytes) : half < 16 :=
    Hex.lt_of_mem_halves isHalf
  rw [ofBytes, Hex.ofBytes_eq_map, dropLeadingZeros_map_digit small, Hex.valueOf_halves]

/-- The selector of bytes stands for the number that the bytes stand for. -/
theorem number?_ofBytes (bytes : List UInt8) :
    Hex.number? (ofBytes bytes) = some (Hex.numberOf bytes) := by
  rw [ofBytes_eq_textOf, number?_textOf]

/-- Without zeros in front, digits are the end of themselves. -/
theorem dropLeadingZeros_isSuffix {digits : Text} (someDigit : digits ≠ []) :
    dropLeadingZeros digits <:+ digits := by
  unfold dropLeadingZeros
  split
  next nothing =>
    -- All digits are zeros, the last one as well.
    have areZeros := List.dropWhile_eq_nil_iff.1 nothing
    obtain ⟨front, last, rfl⟩ := (List.eq_nil_or_concat' digits).resolve_left someDigit
    have isZero : last = .char '0' := by simpa using areZeros last (by simp)
    rw [isZero]
    exact List.suffix_append front [.char '0']
  next significant => exact List.dropWhile_suffix _

/-- The selector of bytes is the end of their text. -/
theorem ofBytes_isSuffix {bytes : List UInt8} (someByte : bytes ≠ []) :
    ofBytes bytes <:+ Text.ofChars (Hex.ofBytes bytes) := by
  refine dropLeadingZeros_isSuffix ?_
  cases bytes with
  | nil => exact absurd rfl someByte
  | cons byte rest => simp [Text.ofChars, Hex.ofBytes, Hex.ofByte]

end TokenLens.Selector
