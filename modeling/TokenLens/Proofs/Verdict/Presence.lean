import Mathlib.Data.List.Count
import Mathlib.Data.List.Perm.Subperm
import TokenLens.Proofs.Number.Rounding
import TokenLens.Proofs.Standard.Acceptance
import TokenLens.Proofs.Verdict.Share

/-!
# How much of a tier is present

Selectors that are present are counted without repetition, so a set never has more of them than one
that holds it, and it has all of them exactly if the count is its size. A percentage of a tier is
then a share between nothing and the whole, and rounding moves it over neither end: it stays between
zero and one hundred (`zero_le_percentOf`, `percentOf_le_hundred`), and in tiers of a sensible size
only the whole is rounded to one hundred (`hundred_le_percentOf_iff`).
-/

namespace TokenLens

namespace SelectorSet

variable {set other : SelectorSet} {holds : Text → Bool}

/-- No member is listed twice. -/
theorem nodup_toList (set : SelectorSet) : set.toList.Nodup := by
  refine set.increasing.imp fun {earlier later} before same => ?_
  rw [same, Text.not_before_self] at before
  cases before

/-- A set has a size exactly if it has a member. -/
theorem size_pos_iff : 0 < set.size ↔ ∃ selector, selector ∈ set :=
  List.length_pos_iff_exists_mem

/-- At most all members have a property. -/
theorem count_le_size : set.count holds ≤ set.size :=
  List.countP_le_length

/-- As many members as there are have a property exactly if each of them has it. -/
theorem count_eq_size_iff : set.count holds = set.size ↔
    ∀ selector ∈ set, holds selector = true :=
  List.countP_eq_length

/-- A set has at most as many members with a property as one that holds it. -/
theorem count_le_count (inside : ∀ selector ∈ set, selector ∈ other) :
    set.count holds ≤ other.count holds := by
  have listed : List.Subperm set.toList other.toList := set.nodup_toList.subperm inside
  exact listed.countP_le holds

end SelectorSet

section Percentages

variable {part whole : Nat} (someWhole : 0 < whole)
include someWhole

/-- The percentage of a whole that is not empty is a quotient. -/
theorem percentOf_eq_ofQuotient :
    percentOf part whole = .ofQuotient false (100 * part) whole :=
  if_neg (Nat.ne_of_gt someWhole)

/-- One hundred percent and less are below one hundred and twenty-eight. -/
theorem hundred_mul_lt (isPart : part ≤ whole) : 100 * part < 2 ^ 7 * whole := by
  omega

/-- No percentage is below zero. -/
theorem zero_le_percentOf (isPart : part ≤ whole) :
    Number.le (.integer 0) (.double (percentOf part whole)) = true := by
  rw [percentOf_eq_ofQuotient someWhole]
  exact Binary64.zero_le_ofQuotient (by decide : 7 ≤ 53) (hundred_mul_lt someWhole isPart)

/-- No percentage of a part is above one hundred. -/
theorem percentOf_le_hundred (isPart : part ≤ whole) :
    Number.le (.double (percentOf part whole)) .hundred = true := by
  rw [percentOf_eq_ofQuotient someWhole]
  have atMost : 100 * part ≤ 100 * whole := Nat.mul_le_mul_left 100 isPart
  exact Binary64.ofQuotient_le_integer (by decide : 7 ≤ 53) someWhole (by decide) atMost

/-- A percentage is one hundred exactly if the part is the whole, unless the whole is so large that
less is rounded up. -/
theorem hundred_le_percentOf_iff (isPart : part ≤ whole) (fine : whole ≤ 2 ^ 46) :
    Number.le .hundred (.double (percentOf part whole)) = true ↔ part = whole := by
  rw [percentOf_eq_ofQuotient someWhole]
  have reached : Number.le .hundred (.double (.ofQuotient false (100 * part) whole)) = true ↔
      100 * whole ≤ 100 * part :=
    Binary64.integer_le_ofQuotient_iff (by decide : 7 ≤ 53) someWhole
      (hundred_mul_lt someWhole isPart) fine
  refine reached.trans ⟨fun atLeast => ?_, fun same => ?_⟩
  · omega
  · exact Nat.mul_le_mul_left 100 (Nat.le_of_eq same.symm)

end Percentages

namespace Standard

variable {present : Text → Bool} {standard : Standard} (nests : standard.Nests)
include nests

/-- A canonical tier above a least tier that is not empty is not empty. -/
theorem Nests.size_full_pos : 0 < standard.full.size := by
  obtain ⟨selector, isLeast⟩ := nests.someSelector
  exact SelectorSet.size_pos_iff.2 ⟨selector, nests.minInFull selector isLeast⟩

/-- A share is one hundred percent exactly if the whole canonical tier is present. -/
theorem Nests.reaches_hundred_iff (fine : standard.full.size ≤ 2 ^ 46) :
    standard.Reaches present .hundred ↔ ∀ selector ∈ standard.full, present selector = true :=
  (hundred_le_percentOf_iff nests.size_full_pos SelectorSet.count_le_size fine).trans
    SelectorSet.count_eq_size_iff

/-- A standard that passes the gate has at least as many points as selectors of its canonical tier
are present, these are at least as many as its least tier has, and that has one. -/
theorem Nests.points_of_passesGate (passes : standard.PassesGate present) :
    standard.full.count present ≤ standard.max.count present ∧
      standard.min.size ≤ standard.full.count present ∧ 1 ≤ standard.min.size := by
  have allLeast : standard.min.count present = standard.min.size :=
    SelectorSet.count_eq_size_iff.2 passes
  have leastInFull : standard.min.count present ≤ standard.full.count present :=
    SelectorSet.count_le_count nests.minInFull
  refine ⟨SelectorSet.count_le_count nests.fullInMax, ?_,
    SelectorSet.size_pos_iff.2 nests.someSelector⟩
  rwa [allLeast] at leastInFull

end Standard

end TokenLens
