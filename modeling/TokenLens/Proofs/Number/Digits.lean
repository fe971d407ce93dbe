import Mathlib.Data.Nat.Digits.Lemmas
import TokenLens.Number.Numeral

/-!
# The value of digits

Digits are read most significant first. Without the zeros in front they are the one spelling of
their value, `dropWhile_zero_eq_digits`, so digits that differ in nothing but zeros in front are
those that have the same value.
-/

namespace TokenLens.Numeral

/-- The value of digits is that of the same digits, least significant first. -/
theorem valueOf_eq_ofDigits (base : Nat) (digits : List Nat) :
    valueOf base digits = Nat.ofDigits base digits.reverse := by
  rw [valueOf, Nat.ofDigits_eq_foldr, List.foldr_reverse]
  congr
  funext value digit
  simp [Nat.mul_comm, Nat.add_comm]

/-- A zero in front does not count. -/
theorem valueOf_dropWhile_zero (base : Nat) (digits : List Nat) :
    valueOf base (digits.dropWhile (· = 0)) = valueOf base digits := by
  induction digits with
  | nil => rfl
  | cons digit rest inductionHypothesis =>
      by_cases isZero : digit = 0
      · subst isZero
        rw [List.dropWhile_cons_of_pos (by simp), inductionHypothesis]
        simp [valueOf]
      · rw [List.dropWhile_cons_of_neg (by simpa using isZero)]

/-- Without the zeros in front, digits are those of their value. -/
theorem dropWhile_zero_eq_digits {base : Nat} (large : 1 < base) {digits : List Nat}
    (small : ∀ digit ∈ digits, digit < base) :
    digits.dropWhile (· = 0) = (Nat.digits base (valueOf base digits)).reverse := by
  have significant (isDigits : (digits.dropWhile (· = 0)).reverse ≠ []) :
      (digits.dropWhile (· = 0)).reverse.getLast isDigits ≠ 0 := by
    rw [List.getLast_reverse]
    simpa using List.head_dropWhile_not (fun digit : Nat => decide (digit = 0))
      (l := digits) (by simpa using isDigits)
  rw [← valueOf_dropWhile_zero, valueOf_eq_ofDigits,
    Nat.digits_ofDigits base large _ ?_ significant, List.reverse_reverse]
  intro digit isDigit
  exact small digit (List.dropWhile_subset _ (List.mem_reverse.1 isDigit))

end TokenLens.Numeral
