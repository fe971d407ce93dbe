import Mathlib.Data.Nat.Log
import TokenLens.Proofs.Number.Rounding

/-!
# Rounding keeps the order of quotients

A quotient that is at most another is rounded to a number that is at most the other's. At one shift
this is so because a half is rounded by the digit before it alone; where the shifts differ, a power
of two lies between the two rounded numbers (`Binary64.roundedUnits_mono`).
-/

namespace TokenLens.Binary64

variable {numerator denominator otherNumerator otherDenominator count bits : Nat}

/-- A quotient that lies between two integers is rounded to the even one. -/
theorem nearestEven_half (positive : 0 < denominator)
    (isHalf : 2 * numerator = (2 * count + 1) * denominator) :
    nearestEven numerator denominator = count + count % 2 := by
  have isCount : numerator / denominator = count := by
    refine Nat.div_eq_of_lt_le ?_ ?_
    · nlinarith
    · nlinarith
  have isRest : 2 * (numerator % denominator) = denominator := by
    have whole := Nat.div_add_mod numerator denominator
    rw [isCount] at whole
    nlinarith
  simp only [nearestEven, isCount, isRest, lt_irrefl, if_false]
  split
  · omega
  · omega

section Order

variable (positive : 0 < denominator) (otherPositive : 0 < otherDenominator)
  (atMost : numerator * otherDenominator ≤ otherNumerator * denominator)
include positive otherPositive atMost

/-- Rounding to integers keeps the order of quotients. -/
theorem nearestEven_mono :
    nearestEven numerator denominator ≤ nearestEven otherNumerator otherDenominator := by
  obtain ⟨-, near⟩ := nearestEven_near numerator positive
  obtain ⟨otherNear, -⟩ := nearestEven_near otherNumerator otherPositive
  by_contra more
  generalize rounded : nearestEven otherNumerator otherDenominator = count at *
  -- Otherwise both quotients would be the half above the second one.
  have reaches : (2 * count + 1) * denominator ≤ 2 * numerator := by
    have above : (2 * count + 2) * denominator ≤
        2 * nearestEven numerator denominator * denominator :=
      Nat.mul_le_mul_right denominator (by omega)
    nlinarith
  have isHalf : 2 * numerator = (2 * count + 1) * denominator := by
    refine Nat.le_antisymm (Nat.le_of_mul_le_mul_right ?_ otherPositive) reaches
    nlinarith
  have otherIsHalf : 2 * otherNumerator = (2 * count + 1) * otherDenominator := by
    refine Nat.le_antisymm otherNear (Nat.le_of_mul_le_mul_right ?_ positive)
    nlinarith
  rw [nearestEven_half positive isHalf, ← nearestEven_half otherPositive otherIsHalf, rounded]
    at more
  exact more le_rfl

/-- A quotient that is at most another has at most as many units, rounded down. -/
theorem units_mono : numerator * unitsPerOne / denominator ≤
    otherNumerator * unitsPerOne / otherDenominator := by
  rw [Nat.le_div_iff_mul_le otherPositive]
  refine Nat.le_of_mul_le_mul_right ?_ positive
  have below := Nat.div_mul_le_self (numerator * unitsPerOne) denominator
  generalize numerator * unitsPerOne / denominator = units at below ⊢
  calc units * otherDenominator * denominator
    _ = units * denominator * otherDenominator := by ring
    _ ≤ numerator * unitsPerOne * otherDenominator := Nat.mul_le_mul_right _ below
    _ = numerator * otherDenominator * unitsPerOne := by ring
    _ ≤ otherNumerator * denominator * unitsPerOne := Nat.mul_le_mul_right _ atMost
    _ = otherNumerator * unitsPerOne * denominator := by ring

/-- A quotient that is at most another is rounded at a shift that is at most the other's. -/
theorem shiftOf_mono : shiftOf numerator denominator ≤ shiftOf otherNumerator otherDenominator := by
  have units := units_mono positive otherPositive atMost
  rw [shiftOf, shiftOf, shiftFor, shiftFor, Nat.log2_eq_log_two, Nat.log2_eq_log_two]
  exact Nat.sub_le_sub_right (Nat.log_mono_right units) 52

end Order

/-- What is rounded at a shift is at most the power of two above all significands. -/
theorem roundedUnits_le_power (positive : 0 < denominator) :
    roundedUnits numerator denominator ≤ 2 ^ 53 * 2 ^ shiftOf numerator denominator := by
  have isLess : numerator * unitsPerOne / denominator <
      2 ^ (shiftOf numerator denominator + 53) := by
    refine Nat.lt_of_lt_of_le Nat.lt_log2_self (Nat.pow_le_pow_right (by decide) ?_)
    rw [shiftOf, shiftFor]
    omega
  refine Nat.mul_le_mul_right _ (nearestEven_le (Nat.mul_pos positive (Nat.two_pow_pos _)) ?_)
  calc numerator * unitsPerOne
    _ ≤ 2 ^ (shiftOf numerator denominator + 53) * denominator :=
        ((Nat.div_lt_iff_lt_mul positive).1 isLess).le
    _ = 2 ^ 53 * (denominator * Nat.pow 2 (shiftOf numerator denominator)) := by
        rw [Nat.pow_add, Nat.pow_eq]
        ring

/-- What is rounded at a shift above zero is at least the power of two below all significands. -/
theorem power_le_roundedUnits (positive : 0 < denominator)
    (isShifted : 0 < shiftOf numerator denominator) :
    2 ^ 52 * 2 ^ shiftOf numerator denominator ≤ roundedUnits numerator denominator := by
  have isLarge : 2 ^ (shiftOf numerator denominator + 52) ≤
      numerator * unitsPerOne / denominator := by
    rw [shiftOf, shiftFor] at isShifted
    have someUnits : numerator * unitsPerOne / denominator ≠ 0 := by
      intro nothing
      rw [nothing, Nat.log2_zero] at isShifted
      omega
    refine (Nat.le_log2 someUnits).1 ?_
    rw [shiftOf, shiftFor]
    omega
  refine Nat.mul_le_mul_right _ (le_nearestEven (Nat.mul_pos positive (Nat.two_pow_pos _)) ?_)
  calc 2 ^ 52 * (denominator * Nat.pow 2 (shiftOf numerator denominator))
    _ = 2 ^ (shiftOf numerator denominator + 52) * denominator := by
        rw [Nat.pow_add, Nat.pow_eq]
        ring
    _ ≤ numerator * unitsPerOne := (Nat.le_div_iff_mul_le positive).1 isLarge

section Order

variable (positive : 0 < denominator) (otherPositive : 0 < otherDenominator)
  (atMost : numerator * otherDenominator ≤ otherNumerator * denominator)
include positive otherPositive atMost

/-- Rounding to numbers of the format keeps the order of quotients. -/
theorem roundedUnits_mono :
    roundedUnits numerator denominator ≤ roundedUnits otherNumerator otherDenominator := by
  rcases (shiftOf_mono positive otherPositive atMost).eq_or_lt with same | less
  · rw [roundedUnits, roundedUnits, significandOf, significandOf, ← same]
    refine Nat.mul_le_mul_right _ (nearestEven_mono (Nat.mul_pos positive (Nat.two_pow_pos _))
      (Nat.mul_pos otherPositive (Nat.two_pow_pos _)) ?_)
    generalize Nat.pow 2 (shiftOf numerator denominator) = power
    calc numerator * unitsPerOne * (otherDenominator * power)
      _ = numerator * otherDenominator * (unitsPerOne * power) := by ring
      _ ≤ otherNumerator * denominator * (unitsPerOne * power) := Nat.mul_le_mul_right _ atMost
      _ = otherNumerator * unitsPerOne * (denominator * power) := by ring
  · calc roundedUnits numerator denominator
      _ ≤ 2 ^ 53 * 2 ^ shiftOf numerator denominator := roundedUnits_le_power positive
      _ = 2 ^ 52 * 2 ^ (shiftOf numerator denominator + 1) := by ring
      _ ≤ 2 ^ 52 * 2 ^ shiftOf otherNumerator otherDenominator :=
          Nat.mul_le_mul_left _ (Nat.pow_le_pow_right (by decide) less)
      _ ≤ roundedUnits otherNumerator otherDenominator :=
          power_le_roundedUnits otherPositive (Nat.zero_lt_of_lt less)

/-- A rounded quotient is at most another if the quotients are in that order. -/
theorem ofQuotient_le_ofQuotient (few : bits ≤ 53) (moderate : numerator < 2 ^ bits * denominator)
    (otherModerate : otherNumerator < 2 ^ bits * otherDenominator) :
    Number.le (.double (ofQuotient false numerator denominator))
      (.double (ofQuotient false otherNumerator otherDenominator)) = true := by
  rw [Number.le_iff_of_place? (place?_ofQuotient few moderate)
    (place?_ofQuotient few otherModerate)]
  exact Line.ofInt_le_ofInt.2
    (Int.ofNat_le.2 (roundedUnits_mono positive otherPositive atMost))

end Order

end TokenLens.Binary64
