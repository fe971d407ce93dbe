import Mathlib.Algebra.Order.Field.Basic
import Mathlib.Algebra.Order.Field.Rat
import TokenLens.Proofs.Number.Separation
import TokenLens.Proofs.Verdict.Presence

/-!
# Shares without rounding

The percentages of tiers are rounded, each once. In tiers of at most `2 ^ 20` selectors rounding
decides nothing: rounded percentages of two tiers are compared as the exact ones are, and a rounded
percentage reaches a whole number exactly if the exact one does. So the label that percentages
choose is the one that exact shares choose (`Registry.percent_isExact`).

An exact share is a quotient of natural numbers. That of an empty tier is zero, as its percentage
is; no standard of a registry that was accepted has one.
-/

namespace TokenLens

namespace Standard

variable {present : Text → Bool} {standard other : Standard}

/-- The percentage of the canonical tier that is present, without rounding. -/
def exactShare (present : Text → Bool) (standard : Standard) : ℚ :=
  100 * (standard.full.count present : ℚ) / (standard.full.size : ℚ)

/-- Where a standard stands among others: by its exact share, and then by the size of its canonical
tier. -/
def exactStanding (present : Text → Bool) (standard : Standard) : Lex (ℚ × Nat) :=
  toLex (standard.exactShare present, standard.full.size)

/-- A share and the exact share are one quotient of at most one hundred, rounded and not. -/
theorem exists_quotient_of_share (present : Text → Bool)
    (small : standard.full.size ≤ 2 ^ 20) :
    ∃ numerator denominator, 0 < denominator ∧ denominator ≤ 2 ^ 20 ∧
      numerator < 2 ^ 7 * denominator ∧
      standard.share present = .ofQuotient false numerator denominator ∧
      standard.exactShare present = (numerator : ℚ) / (denominator : ℚ) := by
  rcases Nat.eq_zero_or_pos standard.full.size with isEmpty | someWhole
  · have rounded : Binary64.zero = .ofQuotient false 0 1 := by decide +kernel
    refine ⟨0, 1, by decide, by decide, by decide, ?_, ?_⟩
    · rw [share, isEmpty, ← rounded, percentOf, if_pos rfl]
    · rw [exactShare, isEmpty]
      simp
  · refine ⟨100 * standard.full.count present, standard.full.size, someWhole, small,
      hundred_mul_lt someWhole SelectorSet.count_le_size, percentOf_eq_ofQuotient someWhole, ?_⟩
    rw [exactShare]
    push_cast
    rfl

section Small

variable (small : standard.full.size ≤ 2 ^ 20) (otherSmall : other.full.size ≤ 2 ^ 20)
include small

/-- A share reaches a whole number exactly if the exact share does. -/
theorem reaches_integer_iff (count : Nat) :
    standard.Reaches present (.integer count) ↔ (count : ℚ) ≤ standard.exactShare present := by
  obtain ⟨numerator, denominator, positive, fine, moderate, isShare, isExact⟩ :=
    exists_quotient_of_share present small
  have someDenominator : (0 : ℚ) < (denominator : ℚ) := Nat.cast_pos.2 positive
  rw [Reaches, isShare, isExact, le_div_iff₀ someDenominator]
  have reached : Number.le (.integer count)
        (.double (.ofQuotient false numerator denominator)) = true ↔
      count * denominator ≤ numerator :=
    Binary64.integer_le_ofQuotient_iff (by decide : 7 ≤ 53) positive moderate
      (fine.trans (by decide))
  exact reached.trans (by exact_mod_cast Iff.rfl)

include otherSmall

/-- Shares are compared as the exact shares are. -/
theorem shareAtMost_iff_exactShare_le :
    standard.ShareAtMost present other ↔
      standard.exactShare present ≤ other.exactShare present := by
  obtain ⟨numerator, denominator, positive, fine, moderate, isShare, isExact⟩ :=
    exists_quotient_of_share present small
  obtain ⟨otherNumerator, otherDenominator, otherPositive, otherFine, otherModerate, isOther,
    otherExact⟩ := exists_quotient_of_share present otherSmall
  have someDenominator : (0 : ℚ) < (denominator : ℚ) := Nat.cast_pos.2 positive
  have someOther : (0 : ℚ) < (otherDenominator : ℚ) := Nat.cast_pos.2 otherPositive
  have narrow : denominator * otherDenominator < 2 ^ (53 - 7) :=
    Nat.lt_of_le_of_lt (Nat.mul_le_mul fine otherFine) (by decide)
  rw [ShareAtMost, isShare, isOther, isExact, otherExact, div_le_div_iff₀ someDenominator someOther]
  have compared := Binary64.ofQuotient_le_ofQuotient_iff (by decide : 7 ≤ 53) positive otherPositive
    moderate otherModerate narrow
  exact compared.trans (by exact_mod_cast Iff.rfl)

/-- Standings are compared as the exact standings are. -/
theorem standing_lt_iff : standard.standing present < other.standing present ↔
    standard.exactStanding present < other.exactStanding present := by
  have upwards : _ ↔ standard.exactShare present ≤ other.exactShare present :=
    shareAtMost_iff.symm.trans (shareAtMost_iff_exactShare_le small otherSmall)
  have downwards : _ ↔ other.exactShare present ≤ standard.exactShare present :=
    shareAtMost_iff.symm.trans (shareAtMost_iff_exactShare_le otherSmall small)
  rw [standing, standing, exactStanding, exactStanding, Prod.Lex.toLex_lt_toLex,
    Prod.Lex.toLex_lt_toLex]
  refine or_congr ?_ (and_congr_left fun _ => ?_)
  · exact not_le.symm.trans ((not_congr downwards).trans not_le)
  · exact le_antisymm_iff.trans ((and_congr upwards downwards).trans le_antisymm_iff.symm)

end Small

section Nonempty

variable (someWhole : 0 < standard.full.size)
include someWhole

/-- An exact share reaches a whole number exactly if as many hundredths of the tier are present. -/
theorem le_exactShare_iff (count : Nat) : (count : ℚ) ≤ standard.exactShare present ↔
    count * standard.full.size ≤ 100 * standard.full.count present := by
  rw [exactShare, le_div_iff₀ (Nat.cast_pos.2 someWhole)]
  exact_mod_cast Iff.rfl

/-- Exact shares are compared by cross products. -/
theorem exactShare_le_iff (someOther : 0 < other.full.size) :
    standard.exactShare present ≤ other.exactShare present ↔
      standard.full.count present * other.full.size ≤
        other.full.count present * standard.full.size := by
  rw [exactShare, exactShare, div_le_div_iff₀ (Nat.cast_pos.2 someWhole) (Nat.cast_pos.2 someOther),
    mul_assoc, mul_assoc, mul_le_mul_iff_right₀ (by norm_num)]
  exact_mod_cast Iff.rfl

end Nonempty

end Standard

/-- Only the place of a number matters where it is compared. -/
theorem Number.le_congr {left other : Number} (same : left.place? = other.place?)
    (right : Number) : left.le right = other.le right := by
  rw [Number.le, Number.le, same]

namespace Registry

variable {registry : Registry} {present : Text → Bool}

/-- The label with the highest exact share, if that reaches the threshold. Of equal shares that of
the larger canonical tier counts, and then the first. -/
def bestByExactShare (present : Text → Bool) (registry : Registry) (threshold : ℚ) :
    Option Text :=
  match firstBest? (fun challenger best =>
      decide (best.exactStanding present < challenger.exactStanding present))
      registry.standards with
  | some best => if threshold ≤ best.exactShare present then some best.label else none
  | none => none

section Small

variable (small : ∀ standard ∈ registry.standards, standard.full.size ≤ 2 ^ 20)
include small

/-- The first that stands highest is the first that stands highest exactly. -/
theorem isFirstBest_exactStanding_iff {winner : Standard} :
    IsFirstBest (Standard.standing present) registry.standards winner ↔
      IsFirstBest (Standard.exactStanding present) registry.standards winner := by
  refine exists_congr fun before => exists_congr fun after => and_congr_right fun split => ?_
  have small {standard : Standard} (isStandard : standard ∈ before ++ winner :: after) :=
    small standard (split ▸ isStandard)
  have isWinner : winner ∈ before ++ winner :: after := by simp
  refine and_congr (forall₂_congr fun standard isBefore => ?_)
    (forall₂_congr fun standard isAfter => ?_)
  · exact Standard.standing_lt_iff (small (by simp [isBefore])) (small isWinner)
  · rw [← not_lt, ← not_lt]
    exact not_congr (Standard.standing_lt_iff (small isWinner) (small (by simp [isAfter])))

/-- The label of a threshold that is a whole number is the one that exact shares choose. -/
theorem bestByPercent_eq_bestByExactShare (threshold : Nat) :
    registry.bestByPercent present (.integer threshold) =
      registry.bestByExactShare present threshold := by
  have sameBest : firstBest? (fun challenger best =>
        decide (best.standing present < challenger.standing present)) registry.standards =
      firstBest? (fun challenger best =>
        decide (best.exactStanding present < challenger.exactStanding present))
        registry.standards := by
    refine Option.ext fun winner => ?_
    exact firstBest?_eq_some_iff.trans
      ((isFirstBest_exactStanding_iff small).trans firstBest?_eq_some_iff.symm)
  rw [bestByPercent, bestByExactShare, firstBest?_percentScores, sameBest]
  cases found : firstBest? (fun challenger best =>
      decide (best.exactStanding present < challenger.exactStanding present))
      registry.standards with
  | none => rfl
  | some best =>
      have isStandard : best ∈ registry.standards := by
        obtain ⟨before, after, split, -⟩ := firstBest?_eq_some_iff.1 found
        simp [split]
      have reached : best.Reaches present (.integer threshold) ↔
          (threshold : ℚ) ≤ best.exactShare present :=
        Standard.reaches_integer_iff (small best isStandard) threshold
      exact if_congr reached rfl rfl

/-- In tiers of at most `2 ^ 20` selectors, and for every test for presence, rounding decides
nothing. Rounded shares are compared as the exact ones are; a threshold that is a whole number, in
whatever form, is reached by the same shares, and has the label that exact shares choose. In a
registry that was accepted no tier is empty, so that shares are compared by cross products, and held
against a threshold by hundredths of the tier. -/
theorem percent_isExact (present : Text → Bool) :
    (∀ standard ∈ registry.standards, ∀ other ∈ registry.standards,
      (standard.ShareAtMost present other ↔
        standard.exactShare present ≤ other.exactShare present)) ∧
    (∀ (threshold : Number) (count : Nat), threshold.place? = (Number.integer count).place? →
      registry.best present .percent threshold = registry.bestByExactShare present count ∧
      ∀ standard ∈ registry.standards,
        standard.Reaches present threshold ↔ (count : ℚ) ≤ standard.exactShare present) ∧
    ∀ standards, ofStandards standards = .ok registry → ∀ standard ∈ standards,
      (∀ other ∈ standards, (standard.ShareAtMost present other ↔
        standard.full.count present * other.full.size ≤
          other.full.count present * standard.full.size)) ∧
      ∀ count : Nat, (standard.Reaches present (.integer count) ↔
        count * standard.full.size ≤ 100 * standard.full.count present) := by
  refine ⟨fun standard isStandard other isOther => ?_, fun threshold count same => ⟨?_, ?_⟩,
    fun standards accepted standard isStandard => ⟨fun other isOther => ?_, fun count => ?_⟩⟩
  · exact Standard.shareAtMost_iff_exactShare_le (small standard isStandard) (small other isOther)
  · rw [← bestByPercent_eq_bestByExactShare small, best, bestByPercent, bestByPercent]
    simp only [Number.le_congr same]
  · intro standard isStandard
    rw [Standard.Reaches, Number.le_congr same]
    exact Standard.reaches_integer_iff (small standard isStandard) count
  · have acceptable := areAcceptable accepted
    obtain ⟨-, rfl⟩ := ofStandards_eq_ok_iff.1 accepted
    exact (Standard.shareAtMost_iff_exactShare_le (small standard isStandard)
      (small other isOther)).trans
        (Standard.exactShare_le_iff (acceptable.nested standard isStandard).size_full_pos
          (acceptable.nested other isOther).size_full_pos)
  · have acceptable := areAcceptable accepted
    obtain ⟨-, rfl⟩ := ofStandards_eq_ok_iff.1 accepted
    exact (Standard.reaches_integer_iff (small standard isStandard) count).trans
      (Standard.le_exactShare_iff (acceptable.nested standard isStandard).size_full_pos count)

end Small

/-- A registry of two standards whose canonical tiers have eleven and four selectors. -/
def elevenAndFour : Registry :=
  let eleven := SelectorSet.ofList ["1", "2", "3", "4", "5", "6", "7", "8", "9", "a", "b"]
  let four := SelectorSet.ofList ["1", "2", "3", "c"]
  ⟨[⟨"eleven", .ofList ["1"], eleven, eleven, []⟩, ⟨"four", .ofList ["1"], four, four, []⟩]⟩

/-- Eight of eleven and three of four are one apart in cross products. Exact shares choose the
second standard for seventy-five percent, which may be stated as a double, and none for one percent
more. -/
theorem percent_isExact_elevenAndFour :
    let present : Text → Bool := fun selector =>
      [("1" : Text), "2", "3", "4", "5", "6", "7", "8"].contains selector
    let threshold : Number := .double (.ofQuotient false 75 1)
    (∀ standard ∈ elevenAndFour.standards, standard.full.size ≤ 2 ^ 20) ∧
    ofStandards elevenAndFour.standards = .ok elevenAndFour ∧
    threshold.place? = (Number.integer 75).place? ∧
    elevenAndFour.bestByExactShare present (75 : Nat) = some "FOUR" ∧
    elevenAndFour.best present .percent threshold = some "FOUR" ∧
    elevenAndFour.bestByExactShare present (76 : Nat) = none ∧
    ∃ eleven four, elevenAndFour.standards = [eleven, four] ∧
      eleven.ShareAtMost present four ∧ ¬ four.ShareAtMost present eleven ∧
      four.Reaches present threshold ∧ ¬ four.Reaches present (.integer 76) := by
  intro present threshold
  have small : ∀ standard ∈ elevenAndFour.standards, standard.full.size ≤ 2 ^ 20 := by decide
  have accepted : ofStandards elevenAndFour.standards = .ok elevenAndFour := rfl
  have same : threshold.place? = (Number.integer 75).place? := by decide +kernel
  obtain ⟨-, decides, crosses⟩ := percent_isExact small present
  obtain ⟨isExact, reaches⟩ := decides threshold 75 same
  obtain ⟨isExactToo, -⟩ := decides (.integer 76) 76 rfl
  have chosen : elevenAndFour.best present .percent threshold = some "FOUR" := by decide +kernel
  have nothing : elevenAndFour.best present .percent (.integer 76) = none := by decide +kernel
  refine ⟨small, accepted, same, isExact.symm.trans chosen, chosen, isExactToo.symm.trans nothing,
    _, _, rfl, ?_, ?_, ?_, ?_⟩
  · exact ((crosses _ accepted _ (.head _)).1 _ (.tail _ (.head _))).2 (by decide +kernel)
  · exact mt ((crosses _ accepted _ (.tail _ (.head _))).1 _ (.head _)).1 (by decide +kernel)
  · refine (reaches _ (.tail _ (.head _))).2 ?_
    exact (Standard.le_exactShare_iff (by decide) 75).2 (by decide +kernel)
  · exact mt ((crosses _ accepted _ (.tail _ (.head _))).2 76).1 (by decide +kernel)

end Registry

end TokenLens
