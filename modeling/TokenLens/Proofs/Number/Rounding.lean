import Mathlib.Tactic.Linarith
import Mathlib.Tactic.Ring
import TokenLens.Proofs.Number.Order

/-!
# Rounded quotients beside integers

Rounding a quotient never carries it past an integer: up to 2^53 every integer is a number of the
format, and a rounded quotient is the nearest such number. A quotient that lies below an integer
stays below it as long as its denominator is so small that the gap is more than half of the distance
between two numbers of the format (`Binary64.integer_le_ofQuotient_iff`).
-/

namespace TokenLens.Binary64

variable {numerator denominator count bits : Nat}

/-! ## Rounding to an integer -/

/-- A quotient that is rounded to an integer moves by half at most. -/
theorem nearestEven_near (numerator : Nat) (positive : 0 < denominator) :
    2 * numerator ≤ (2 * nearestEven numerator denominator + 1) * denominator ∧
      2 * nearestEven numerator denominator * denominator ≤ 2 * numerator + denominator := by
  have whole := Nat.div_add_mod numerator denominator
  have small := Nat.mod_lt numerator positive
  dsimp only [nearestEven]
  generalize numerator / denominator = quotient at *
  generalize numerator % denominator = remainder at *
  -- All products are multiples of one, so the rest is linear.
  have product : quotient * denominator = denominator * quotient := Nat.mul_comm _ _
  split_ifs <;> constructor <;> nlinarith

/-- Rounding does not go below an integer that the quotient reaches. -/
theorem le_nearestEven (positive : 0 < denominator) (atLeast : count * denominator ≤ numerator) :
    count ≤ nearestEven numerator denominator := by
  obtain ⟨near, -⟩ := nearestEven_near numerator positive
  by_contra less
  have scaled : (2 * nearestEven numerator denominator + 2) * denominator ≤
      2 * count * denominator :=
    Nat.mul_le_mul_right denominator (by omega)
  nlinarith

/-- Rounding does not go above an integer that the quotient does not exceed. -/
theorem nearestEven_le (positive : 0 < denominator) (atMost : numerator ≤ count * denominator) :
    nearestEven numerator denominator ≤ count := by
  obtain ⟨-, near⟩ := nearestEven_near numerator positive
  by_contra more
  have scaled : (2 * count + 2) * denominator ≤
      2 * nearestEven numerator denominator * denominator :=
    Nat.mul_le_mul_right denominator (by omega)
  nlinarith

/-- A quotient that lies below an integer by more than half is rounded below it. -/
theorem nearestEven_lt (positive : 0 < denominator)
    (below : 2 * numerator + denominator < 2 * count * denominator) :
    nearestEven numerator denominator < count := by
  obtain ⟨-, near⟩ := nearestEven_near numerator positive
  by_contra atLeast
  have scaled : 2 * count * denominator ≤ 2 * nearestEven numerator denominator * denominator :=
    Nat.mul_le_mul_right denominator (by omega)
  omega

/-! ## Rounding to a number of the format -/

/-- The power of two that the units of one are. It is never computed. -/
@[irreducible]
def unitExponent : Nat := 1074

/-- How many units one has. -/
def unitsPerOne : Nat := Nat.pow 2 unitExponent

/-- The shift at which a quotient is rounded. -/
def shiftOf (numerator denominator : Nat) : Nat :=
  shiftFor (numerator * unitsPerOne / denominator)

/-- The significand that a quotient is rounded to at its shift. -/
def significandOf (numerator denominator : Nat) : Nat :=
  nearestEven (numerator * unitsPerOne) (denominator * Nat.pow 2 (shiftOf numerator denominator))

/-- The units of the number that a quotient is rounded to. -/
def roundedUnits (numerator denominator : Nat) : Nat :=
  significandOf numerator denominator * 2 ^ shiftOf numerator denominator

/-- The units of one split into powers of two as their exponent splits. -/
theorem unitsPerOne_eq {left right : Nat} (total : left + right = unitExponent) :
    unitsPerOne = 2 ^ left * 2 ^ right := by
  rw [← Nat.pow_add, total]
  rfl

/-- A quotient of few bits before the point is rounded at a small shift. -/
theorem shiftOf_le (moderate : numerator < 2 ^ bits * denominator) :
    shiftOf numerator denominator + 53 ≤ unitExponent + bits := by
  have bounded : numerator * unitsPerOne / denominator < 2 ^ (unitExponent + bits) := by
    refine Nat.div_lt_of_lt_mul ?_
    calc numerator * unitsPerOne
      _ < 2 ^ bits * denominator * unitsPerOne :=
          Nat.mul_lt_mul_of_pos_right moderate (Nat.two_pow_pos _)
      _ = denominator * 2 ^ (unitExponent + bits) := by
          rw [Nat.pow_add, unitsPerOne, Nat.pow_eq]
          ring
  rw [shiftOf, shiftFor]
  by_cases nothing : numerator * unitsPerOne / denominator = 0
  · rw [nothing, Nat.log2_zero, unitExponent]
    omega
  · have isLess := (Nat.log2_lt nothing).2 bounded
    rw [unitExponent] at isLess ⊢
    omega

/-- A quotient is rounded to its significand at its shift, and a significand of one bit too many is
written with the next shift. -/
theorem ofQuotient_eq (negative : Bool) (numerator denominator : Nat) :
    ofQuotient negative numerator denominator =
      if significandOf numerator denominator = Nat.pow 2 53 then
        if shiftOf numerator denominator + 1 ≤ maxShift then
          .finite negative (Nat.pow 2 52) (shiftOf numerator denominator + 1)
        else .infinite negative
      else if shiftOf numerator denominator ≤ maxShift then
        .finite negative (significandOf numerator denominator) (shiftOf numerator denominator)
      else .infinite negative := by
  unfold significandOf shiftOf unitsPerOne unitExponent ofQuotient
  generalize 1074 = exponent
  rfl

section Moderate

variable (few : bits ≤ 53) (positive : 0 < denominator)
include few

/-- A quotient of few bits before the point is rounded to a finite number. -/
theorem place?_ofQuotient (moderate : numerator < 2 ^ bits * denominator) :
    (Number.double (ofQuotient false numerator denominator)).place? =
      some (.units (roundedUnits numerator denominator : Nat)) := by
  have isSmall : shiftOf numerator denominator + 1 ≤ maxShift := by
    have small := shiftOf_le moderate
    rw [unitExponent] at small
    rw [maxShift]
    omega
  rw [Number.place?, ofQuotient_eq, if_pos isSmall, if_pos (Nat.le_of_succ_le isSmall),
    roundedUnits]
  split
  next isPower =>
    have same : Nat.pow 2 53 * 2 ^ shiftOf numerator denominator =
        Nat.pow 2 52 * Nat.pow 2 (shiftOf numerator denominator + 1) := by
      simp only [Nat.pow_eq]
      ring
    rw [isPower, same]
    rfl
  next => rfl

include positive

/-- A rounded quotient does not exceed an integer that the quotient does not exceed. -/
theorem roundedUnits_le (isSmall : count < 2 ^ bits)
    (atMost : numerator ≤ count * denominator) :
    roundedUnits numerator denominator ≤ count * unitsPerOne := by
  have moderate : numerator < 2 ^ bits * denominator :=
    Nat.lt_of_le_of_lt atMost (Nat.mul_lt_mul_of_pos_right isSmall positive)
  have small := shiftOf_le moderate
  have one := unitsPerOne_eq (Nat.sub_add_cancel
    (by omega : shiftOf numerator denominator ≤ unitExponent))
  have rounded : significandOf numerator denominator ≤
      count * 2 ^ (unitExponent - shiftOf numerator denominator) := by
    refine nearestEven_le (Nat.mul_pos positive (Nat.two_pow_pos _)) ?_
    calc numerator * unitsPerOne
      _ ≤ count * denominator * unitsPerOne := Nat.mul_le_mul_right _ atMost
      _ = count * 2 ^ (unitExponent - shiftOf numerator denominator) *
            (denominator * 2 ^ shiftOf numerator denominator) := by rw [one]; ring
  calc roundedUnits numerator denominator
    _ ≤ count * 2 ^ (unitExponent - shiftOf numerator denominator) *
          2 ^ shiftOf numerator denominator := Nat.mul_le_mul_right _ rounded
    _ = count * unitsPerOne := by rw [one]; ring

/-- A rounded quotient reaches an integer that the quotient reaches. -/
theorem le_roundedUnits (moderate : numerator < 2 ^ bits * denominator)
    (atLeast : count * denominator ≤ numerator) :
    count * unitsPerOne ≤ roundedUnits numerator denominator := by
  have small := shiftOf_le moderate
  have one := unitsPerOne_eq (Nat.sub_add_cancel
    (by omega : shiftOf numerator denominator ≤ unitExponent))
  have rounded : count * 2 ^ (unitExponent - shiftOf numerator denominator) ≤
      significandOf numerator denominator := by
    refine le_nearestEven (Nat.mul_pos positive (Nat.two_pow_pos _)) ?_
    calc count * 2 ^ (unitExponent - shiftOf numerator denominator) *
          (denominator * 2 ^ shiftOf numerator denominator)
      _ = count * denominator * unitsPerOne := by rw [one]; ring
      _ ≤ numerator * unitsPerOne := Nat.mul_le_mul_right _ atLeast
  calc count * unitsPerOne
    _ = count * 2 ^ (unitExponent - shiftOf numerator denominator) *
          2 ^ shiftOf numerator denominator := by rw [one]; ring
    _ ≤ roundedUnits numerator denominator := Nat.mul_le_mul_right _ rounded

/-- A rounded quotient lies below an integer that the quotient lies below, if the denominator leaves
a gap of more than half of the distance between two numbers of the format. -/
theorem roundedUnits_lt (moderate : numerator < 2 ^ bits * denominator)
    (fine : denominator ≤ 2 ^ (53 - bits)) (below : numerator < count * denominator) :
    roundedUnits numerator denominator < count * unitsPerOne := by
  have small := shiftOf_le moderate
  have one := unitsPerOne_eq (Nat.sub_add_cancel
    (by omega : shiftOf numerator denominator ≤ unitExponent))
  have spacing : denominator * 2 ^ shiftOf numerator denominator ≤ unitsPerOne := by
    calc denominator * 2 ^ shiftOf numerator denominator
      _ ≤ 2 ^ (53 - bits) * 2 ^ (unitExponent - (53 - bits)) :=
          Nat.mul_le_mul fine (Nat.pow_le_pow_right (by decide) (by omega))
      _ = unitsPerOne := by
          refine (unitsPerOne_eq (Nat.add_sub_cancel' ?_)).symm
          rw [unitExponent]
          omega
  have gap : numerator * unitsPerOne + unitsPerOne ≤ count * denominator * unitsPerOne := by
    rw [← Nat.succ_mul]
    exact Nat.mul_le_mul_right _ below
  have product : count * denominator * unitsPerOne =
      count * 2 ^ (unitExponent - shiftOf numerator denominator) *
        (denominator * 2 ^ shiftOf numerator denominator) := by
    rw [one]
    ring
  have rounded : significandOf numerator denominator <
      count * 2 ^ (unitExponent - shiftOf numerator denominator) := by
    refine nearestEven_lt (Nat.mul_pos positive (Nat.two_pow_pos _)) ?_
    have someUnits : 0 < unitsPerOne := Nat.two_pow_pos _
    rw [Nat.pow_eq, Nat.mul_assoc 2 (count * _), ← product]
    omega
  calc roundedUnits numerator denominator
    _ < count * 2 ^ (unitExponent - shiftOf numerator denominator) *
          2 ^ shiftOf numerator denominator :=
        Nat.mul_lt_mul_of_pos_right rounded (Nat.two_pow_pos _)
    _ = count * unitsPerOne := by rw [one]; ring

end Moderate

/-! ## Comparison with integers -/

/-- Where a natural number lies. -/
theorem place?_integer (count : Nat) :
    (Number.integer count).place? = some (.units (count * unitsPerOne : Nat)) := by
  unfold Number.place? unitsPerOne unitExponent
  generalize 1074 = exponent
  rw [Int.natCast_mul]

section Moderate

variable (few : bits ≤ 53) (positive : 0 < denominator)
include few positive

/-- A rounded quotient is at most an integer that the quotient is at most. -/
theorem ofQuotient_le_integer (isSmall : count < 2 ^ bits)
    (atMost : numerator ≤ count * denominator) :
    Number.le (.double (ofQuotient false numerator denominator)) (.integer count) = true := by
  have moderate : numerator < 2 ^ bits * denominator :=
    Nat.lt_of_le_of_lt atMost (Nat.mul_lt_mul_of_pos_right isSmall positive)
  have rounded := roundedUnits_le few positive isSmall atMost
  rw [Number.le_iff_of_place? (place?_ofQuotient few moderate) (place?_integer count)]
  exact Line.ofInt_le_ofInt.2 (Int.ofNat_le.2 rounded)

/-- An integer is at most a rounded quotient exactly if it is at most the quotient. -/
theorem integer_le_ofQuotient_iff (moderate : numerator < 2 ^ bits * denominator)
    (fine : denominator ≤ 2 ^ (53 - bits)) :
    Number.le (.integer count) (.double (ofQuotient false numerator denominator)) = true ↔
      count * denominator ≤ numerator := by
  rw [Number.le_iff_of_place? (place?_integer count) (place?_ofQuotient few moderate)]
  refine (Line.ofInt_le_ofInt.trans Int.ofNat_le).trans ?_
  constructor
  · intro reached
    by_contra below
    have less := roundedUnits_lt few positive moderate fine (Nat.not_le.1 below)
    omega
  · intro atLeast
    exact le_roundedUnits few positive moderate atLeast

end Moderate

/-- No quotient is rounded below zero. -/
theorem zero_le_ofQuotient (few : bits ≤ 53) (moderate : numerator < 2 ^ bits * denominator) :
    Number.le (.integer 0) (.double (ofQuotient false numerator denominator)) = true := by
  have zero : (Number.integer 0).place? = some (.units (0 * unitsPerOne : Nat)) := place?_integer 0
  rw [Number.le_iff_of_place? zero (place?_ofQuotient few moderate)]
  exact Line.ofInt_le_ofInt.2 (Int.ofNat_le.2 (by omega))

end TokenLens.Binary64
