import TokenLens.Proofs.Verdict.Presence
import TokenLens.Standard.Bundled

/-!
# What acceptance protects

The percentages have no checks of their own. They are divided by the size of a tier, the first of
their ranking is taken without asking whether there is one, and a registry without standards would
be exchanged for the bundled one. What makes all this safe is that a registry was accepted: then
every canonical tier has a selector, and there is a standard to rank
(`Registry.acceptance_protects`).
-/

namespace TokenLens

/-- A score is sound if it counts a part of a tier that is not empty, so that its percentage is a
quotient and lies between zero and one hundred. -/
structure PercentScore.IsSound (score : PercentScore) : Prop where
  someChecks : 0 < score.checks
  quotient : ∃ matched ≤ score.checks,
    score.percent = .ofQuotient false (100 * matched) score.checks
  notBelowZero : Number.le (.integer 0) (.double score.percent) = true
  notAboveHundred : Number.le (.double score.percent) .hundred = true

/-- The score of a standard whose tiers nest is sound. -/
theorem Standard.Nests.isSound_percentScore {standard : Standard} (nests : standard.Nests)
    (present : Text → Bool) : (standard.percentScore present).IsSound where
  someChecks := nests.size_full_pos
  quotient := ⟨standard.full.count present, SelectorSet.count_le_size,
    percentOf_eq_ofQuotient nests.size_full_pos⟩
  notBelowZero := zero_le_percentOf nests.size_full_pos SelectorSet.count_le_size
  notAboveHundred := percentOf_le_hundred nests.size_full_pos SelectorSet.count_le_size

namespace Registry

variable {registry : Registry} {standards : List Standard} {present : Text → Bool}

/-- All scores of acceptable standards are sound. -/
theorem isSound_of_mem_percentScores (acceptable : AreAcceptable registry.standards)
    {score : PercentScore} (isScore : score ∈ registry.percentScores present) : score.IsSound := by
  obtain ⟨standard, isStandard, rfl⟩ := List.mem_map.1 isScore
  exact (acceptable.nested standard isStandard).isSound_percentScore present

/-- Where there is a standard, the search for the best score finds one. -/
theorem exists_best_percentScore (present : Text → Bool)
    (someStandard : registry.standards ≠ []) :
    ∃ best ∈ registry.percentScores present,
      firstBest? PercentScore.beats (registry.percentScores present) = some best := by
  obtain ⟨winner, isFirst⟩ := exists_isFirstByShare present someStandard
  have found := firstBest?_eq_some_iff.2 (isFirstByShare_iff.1 isFirst)
  refine ⟨winner.percentScore present, List.mem_map_of_mem isFirst.isStandard, ?_⟩
  rw [firstBest?_percentScores, found, Option.map_some]

/-- A registry with a standard is preferred to the bundled one. -/
theorem orBundled_some (someStandard : registry.standards ≠ []) :
    orBundled (some registry) = registry := by
  obtain ⟨first, rest, split⟩ := List.exists_cons_of_ne_nil someStandard
  obtain ⟨standards⟩ := registry
  obtain rfl : standards = first :: rest := split
  rfl

/-- Standards are refused exactly if there is none, a name stands twice, a least tier is empty, or a
tier does not lie inside of the next. A registry that is accepted holds the standards as they were
given and is never exchanged for the bundled one. For every test for presence all of its scores are
sound, one of them is the best, and every threshold is held against that one. -/
theorem acceptance_protects (standards : List Standard) :
    ((∃ fault, ofStandards standards = .error fault) ↔
      standards = [] ∨ ¬ (standards.map Standard.name).Nodup ∨
        ∃ standard ∈ standards, (∀ selector, selector ∉ standard.min) ∨
          (∃ selector ∈ standard.min, selector ∉ standard.full) ∨
          ∃ selector ∈ standard.full, selector ∉ standard.max) ∧
    ∀ registry, ofStandards standards = .ok registry →
      registry.standards = standards ∧ orBundled (some registry) = registry ∧
      ∀ present : Text → Bool,
        (∀ score ∈ registry.percentScores present, score.IsSound) ∧
        ∃ best ∈ registry.percentScores present,
          firstBest? PercentScore.beats (registry.percentScores present) = some best ∧
          ∀ threshold : Number, registry.bestByPercent present threshold =
            if threshold.le (.double best.percent) then some best.label else none := by
  refine ⟨exists_ofStandards_eq_error_iff.trans not_areAcceptable_iff, fun registry accepted => ?_⟩
  have acceptable := areAcceptable accepted
  refine ⟨(ofStandards_eq_ok_iff.1 accepted).2, orBundled_some acceptable.someStandard,
    fun present => ⟨fun score isScore => isSound_of_mem_percentScores acceptable isScore, ?_⟩⟩
  obtain ⟨best, isScore, found⟩ := exists_best_percentScore present acceptable.someStandard
  refine ⟨best, isScore, found, fun threshold => ?_⟩
  rw [bestByPercent, found]

/-- A registry of nested tiers is kept and has sound scores, and no threshold up to zero is missed
even where nothing is present. Standards without a selector in the least tier are refused. -/
theorem acceptance_protects_doubledTier :
    let nothing : Text → Bool := fun _ => false
    let bare : Standard := ⟨"bare", .empty, .empty, .empty, []⟩
    (∃ fault, ofStandards [bare] = .error fault) ∧
    ofStandards doubledTier.standards = .ok doubledTier ∧
    orBundled (some doubledTier) = doubledTier ∧
    (∀ score ∈ doubledTier.percentScores nothing, score.IsSound) ∧
    doubledTier.bestByPercent nothing (.integer 0) = some ("WIDE" : Text) := by
  intro nothing bare
  obtain ⟨refused, -⟩ := acceptance_protects [bare]
  obtain ⟨-, protects⟩ := acceptance_protects doubledTier.standards
  have accepted : ofStandards doubledTier.standards = .ok doubledTier := rfl
  obtain ⟨-, kept, scored⟩ := protects doubledTier accepted
  obtain ⟨sound, best, -, found, decided⟩ := scored nothing
  have isRefused : ∃ fault, ofStandards [bare] = .error fault :=
    refused.2 (.inr (.inr ⟨bare, List.mem_singleton_self _, .inl SelectorSet.not_mem_empty⟩))
  have isBest : firstBest? PercentScore.beats (doubledTier.percentScores nothing) =
      some ⟨"WIDE", percentOf 0 4, 4⟩ := by decide +kernel
  obtain rfl := Option.some.inj (found.symm.trans isBest)
  refine ⟨isRefused, accepted, kept, sound, ?_⟩
  rw [decided, if_pos (zero_le_percentOf (by decide) (Nat.zero_le _))]

end Registry

end TokenLens
