import TokenLens.Proofs.Number.Monotone

/-!
# Different quotients stay different

Two different quotients of small denominators are further apart than rounding can carry them towards
each other, so the numbers that they are rounded to are compared exactly as the quotients are
(`Binary64.ofQuotient_le_ofQuotient_iff`). How small the denominators have to be depends on how many
bits the quotients have before the point, for with each of them the numbers of the format lie twice
as far apart.
-/

namespace TokenLens.Binary64

variable {numerator denominator otherNumerator otherDenominator bits : Nat}

/-- The numbers of the format that lie beside a quotient of few bits before the point are no further
apart than this. -/
def spacing (bits : Nat) : Nat := 2 ^ (unitExponent - (53 - bits))

/-- The units of one are so many spacings. -/
theorem unitsPerOne_eq_spacing (bits : Nat) : unitsPerOne = 2 ^ (53 - bits) * spacing bits := by
  refine unitsPerOne_eq (Nat.add_sub_cancel' ?_)
  rw [unitExponent]
  omega

/-- A quotient of few bits before the point is rounded at a shift of at most a spacing. -/
theorem power_shiftOf_le (few : bits ≤ 53) (moderate : numerator < 2 ^ bits * denominator) :
    2 ^ shiftOf numerator denominator ≤ spacing bits := by
  have small := shiftOf_le moderate
  exact Nat.pow_le_pow_right (by decide) (by omega)

/-- Rounding to a number of the format moves a quotient by half a spacing at most. -/
theorem roundedUnits_near (few : bits ≤ 53) (positive : 0 < denominator)
    (moderate : numerator < 2 ^ bits * denominator) :
    2 * (numerator * unitsPerOne) ≤
        2 * roundedUnits numerator denominator * denominator + denominator * spacing bits ∧
      2 * roundedUnits numerator denominator * denominator ≤
        2 * (numerator * unitsPerOne) + denominator * spacing bits := by
  have scaled : denominator * 2 ^ shiftOf numerator denominator ≤ denominator * spacing bits :=
    Nat.mul_le_mul_left _ (power_shiftOf_le few moderate)
  have product : 2 * roundedUnits numerator denominator * denominator =
      2 * significandOf numerator denominator *
        (denominator * 2 ^ shiftOf numerator denominator) := by
    rw [roundedUnits]
    ring
  obtain ⟨below, above⟩ := nearestEven_near (numerator * unitsPerOne)
    (Nat.mul_pos positive (Nat.two_pow_pos (shiftOf numerator denominator)))
  rw [product]
  constructor
  · calc 2 * (numerator * unitsPerOne)
      _ ≤ (2 * significandOf numerator denominator + 1) *
            (denominator * 2 ^ shiftOf numerator denominator) := below
      _ ≤ 2 * significandOf numerator denominator *
            (denominator * 2 ^ shiftOf numerator denominator) + denominator * spacing bits := by
          rw [Nat.succ_mul]
          exact Nat.add_le_add_left scaled _
  · exact above.trans (Nat.add_le_add_left scaled _)

section Order

variable (few : bits ≤ 53) (positive : 0 < denominator) (otherPositive : 0 < otherDenominator)
  (moderate : numerator < 2 ^ bits * denominator)
  (otherModerate : otherNumerator < 2 ^ bits * otherDenominator)
  (fine : denominator * otherDenominator < 2 ^ (53 - bits))
include few positive otherPositive moderate otherModerate fine

/-- A quotient that is less than another is rounded to less, if the denominators are so small that
the gap between the quotients is more than a spacing. -/
theorem roundedUnits_lt_roundedUnits
    (less : numerator * otherDenominator < otherNumerator * denominator) :
    roundedUnits numerator denominator < roundedUnits otherNumerator otherDenominator := by
  obtain ⟨-, near⟩ := roundedUnits_near few positive moderate
  obtain ⟨otherNear, -⟩ := roundedUnits_near few otherPositive otherModerate
  have narrow : denominator * otherDenominator * spacing bits < unitsPerOne := by
    rw [unitsPerOne_eq_spacing bits]
    exact Nat.mul_lt_mul_of_pos_right fine (Nat.two_pow_pos _)
  by_contra notLess
  have reversed : 2 * roundedUnits otherNumerator otherDenominator *
        (denominator * otherDenominator) ≤
      2 * roundedUnits numerator denominator * (denominator * otherDenominator) :=
    Nat.mul_le_mul_right _ (by omega)
  generalize roundedUnits numerator denominator = rounded at near reversed
  generalize roundedUnits otherNumerator otherDenominator = otherRounded at otherNear reversed
  -- Each quotient moves by half a spacing, which is too little for them to meet.
  have meeting : 2 * (otherNumerator * denominator * unitsPerOne) <
      2 * (numerator * otherDenominator * unitsPerOne) + 2 * unitsPerOne := by
    calc 2 * (otherNumerator * denominator * unitsPerOne)
      _ = 2 * (otherNumerator * unitsPerOne) * denominator := by ring
      _ ≤ (2 * otherRounded * otherDenominator + otherDenominator * spacing bits) *
            denominator := Nat.mul_le_mul_right _ otherNear
      _ = 2 * otherRounded * (denominator * otherDenominator) +
            denominator * otherDenominator * spacing bits := by ring
      _ ≤ 2 * rounded * (denominator * otherDenominator) +
            denominator * otherDenominator * spacing bits := Nat.add_le_add_right reversed _
      _ = 2 * rounded * denominator * otherDenominator +
            denominator * otherDenominator * spacing bits := by ring
      _ ≤ (2 * (numerator * unitsPerOne) + denominator * spacing bits) * otherDenominator +
            denominator * otherDenominator * spacing bits :=
          Nat.add_le_add_right (Nat.mul_le_mul_right _ near) _
      _ = 2 * (numerator * otherDenominator * unitsPerOne) +
            2 * (denominator * otherDenominator * spacing bits) := by ring
      _ < 2 * (numerator * otherDenominator * unitsPerOne) + 2 * unitsPerOne := by omega
  have apart : (numerator * otherDenominator + 1) * unitsPerOne ≤
      otherNumerator * denominator * unitsPerOne := Nat.mul_le_mul_right _ less
  rw [Nat.succ_mul] at apart
  omega

/-- Rounded quotients are compared as the quotients are. -/
theorem ofQuotient_le_ofQuotient_iff :
    Number.le (.double (ofQuotient false numerator denominator))
        (.double (ofQuotient false otherNumerator otherDenominator)) = true ↔
      numerator * otherDenominator ≤ otherNumerator * denominator := by
  constructor
  · intro atMost
    rw [Number.le_iff_of_place? (place?_ofQuotient few moderate)
      (place?_ofQuotient few otherModerate)] at atMost
    have rounded : roundedUnits numerator denominator ≤
        roundedUnits otherNumerator otherDenominator :=
      Int.ofNat_le.1 (Line.ofInt_le_ofInt.1 atMost)
    by_contra more
    have less := roundedUnits_lt_roundedUnits few otherPositive positive otherModerate moderate
      (by rwa [Nat.mul_comm]) (Nat.not_le.1 more)
    exact absurd less (Nat.not_lt.2 rounded)
  · intro atMost
    exact ofQuotient_le_ofQuotient positive otherPositive atMost few moderate otherModerate

end Order

end TokenLens.Binary64
