import Mathlib.Data.Prod.Lex
import TokenLens.Proofs.Abi.Compatibility
import TokenLens.Proofs.Number.Order
import TokenLens.Proofs.Verdict.Gate

/-!
# The best share

What the strategy of percentages decides, told by shares alone: the share of a standard is the
rounded percentage of its canonical tier that is present. Nothing is chosen exactly if no share
reaches the threshold. Otherwise the choice is the first of the standards with the highest share
and, among these, with the largest canonical tier; no other tier has a say. Only the best standard
is held against the threshold, which suffices because no other has a higher share.

Shares are numbers, so they stand in a linear order (`Binary64.le_iff`). The threshold may be any
number, or none: then no share reaches it.
-/

namespace TokenLens

/-- A percentage is a number. -/
theorem percentOf_ne_nan (part whole : Nat) : percentOf part whole ≠ .nan := by
  unfold percentOf
  split
  · exact nofun
  · exact Binary64.ofQuotient_ne_nan _ _ _

namespace Standard

variable {present : Text → Bool} {standard other : Standard} {threshold : Number}

/-- The percentage of the canonical tier that is present. -/
def share (present : Text → Bool) (standard : Standard) : Binary64 :=
  percentOf (standard.full.count present) standard.full.size

/-- The share of one standard is at most that of another. -/
def ShareAtMost (present : Text → Bool) (standard other : Standard) : Prop :=
  Number.le (.double (standard.share present)) (.double (other.share present)) = true

/-- The share of a standard is at least a threshold. -/
def Reaches (present : Text → Bool) (threshold : Number) (standard : Standard) : Prop :=
  threshold.le (.double (standard.share present)) = true

/-- Where a standard stands among others: by its share, and then by the size of its canonical
tier. -/
def standing (present : Text → Bool) (standard : Standard) : Lex (Line × Nat) :=
  toLex ((standard.share present).onLine, standard.full.size)

/-- Shares are compared as they lie on the line. -/
theorem shareAtMost_iff : standard.ShareAtMost present other ↔
    (standard.share present).onLine ≤ (other.share present).onLine :=
  Binary64.le_iff (percentOf_ne_nan _ _) (percentOf_ne_nan _ _)

/-- A score beats another if its standard stands higher. -/
theorem beats_percentScore : (standard.percentScore present).beats (other.percentScore present) =
    decide (other.standing present < standard.standing present) := by
  have compared (left right : Standard) :
      Number.le (.double (left.percentScore present).percent)
          (.double (right.percentScore present).percent) =
        decide ((left.share present).onLine ≤ (right.share present).onLine) :=
    Bool.eq_iff_iff.2 (shareAtMost_iff.trans decide_eq_true_iff.symm)
  simp only [PercentScore.beats, compared]
  rw [Bool.eq_iff_iff, decide_eq_true_iff, standing, standing, Prod.Lex.toLex_lt_toLex]
  simp only [Bool.or_eq_true, Bool.not_eq_true', Bool.and_eq_true, decide_eq_false_iff_not,
    decide_eq_true_eq, not_le]
  constructor
  · rintro (higher | ⟨atLeast, larger⟩)
    · exact .inl higher
    · exact atLeast.lt_or_eq.imp_right fun same => ⟨same, larger⟩
  · rintro (higher | ⟨same, larger⟩)
    · exact .inl higher
    · exact .inr ⟨same.le, larger⟩

/-- A standard whose share is at least one that reaches a threshold reaches it too. -/
theorem Reaches.mono (reaches : standard.Reaches present threshold)
    (atMost : standard.ShareAtMost present other) : other.Reaches present threshold :=
  Number.le_trans reaches atMost

end Standard

namespace Registry

variable {present : Text → Bool} {registry : Registry} {threshold : Number} {winner : Standard}

/-- A standard with the highest share of all, with the largest canonical tier among all of that
share, and with a larger one than any such that comes before it. -/
def IsFirstByShare (present : Text → Bool) (registry : Registry) (winner : Standard) : Prop :=
  ∃ before after, registry.standards = before ++ winner :: after ∧
    (∀ other ∈ registry.standards, other.ShareAtMost present winner) ∧
    (∀ other ∈ registry.standards, winner.ShareAtMost present other →
      other.full.size ≤ winner.full.size) ∧
    ∀ other ∈ before, winner.ShareAtMost present other → other.full.size < winner.full.size

/-- The first by share is a standard of the registry. -/
theorem IsFirstByShare.isStandard (isFirst : registry.IsFirstByShare present winner) :
    winner ∈ registry.standards := by
  obtain ⟨before, after, split, -⟩ := isFirst
  simp [split]

/-- The first by share is the first that stands highest. -/
theorem isFirstByShare_iff : registry.IsFirstByShare present winner ↔
    IsFirstBest (Standard.standing present) registry.standards winner := by
  have below {other : Standard} : other.standing present < winner.standing present ↔
      other.ShareAtMost present winner ∧
        (winner.ShareAtMost present other → other.full.size < winner.full.size) := by
    rw [Standard.standing, Standard.standing, Prod.Lex.toLex_lt_toLex, Standard.shareAtMost_iff,
      Standard.shareAtMost_iff]
    grind
  have notAbove {other : Standard} : other.standing present ≤ winner.standing present ↔
      other.ShareAtMost present winner ∧
        (winner.ShareAtMost present other → other.full.size ≤ winner.full.size) := by
    rw [Standard.standing, Standard.standing, Prod.Lex.toLex_le_toLex, Standard.shareAtMost_iff,
      Standard.shareAtMost_iff]
    grind
  constructor
  · rintro ⟨before, after, split, highest, largest, first⟩
    refine ⟨before, after, split, fun other isBefore => ?_, fun other isAfter => ?_⟩
    · have isOther : other ∈ registry.standards := by simp [split, isBefore]
      exact below.2 ⟨highest other isOther, first other isBefore⟩
    · have isOther : other ∈ registry.standards := by simp [split, isAfter]
      exact notAbove.2 ⟨highest other isOther, largest other isOther⟩
  · intro isBest
    have bounded (other : Standard) (isOther : other ∈ registry.standards) :=
      notAbove.1 (isBest.rank_le isOther)
    obtain ⟨before, after, split, ahead, -⟩ := isBest
    exact ⟨before, after, split, fun other isOther => (bounded other isOther).1,
      fun other isOther => (bounded other isOther).2,
      fun other isBefore => (below.1 (ahead other isBefore)).2⟩

/-- Where there is a standard, one is first by share. -/
theorem exists_isFirstByShare (present : Text → Bool) (someStandard : registry.standards ≠ []) :
    ∃ winner, registry.IsFirstByShare present winner := by
  obtain ⟨first, rest, split⟩ := List.exists_cons_of_ne_nil someStandard
  exact ⟨_, isFirstByShare_iff.2 (firstBest?_eq_some_iff.1 (by rw [split, firstBest?]))⟩

/-- The best score is that of the standard that stands highest. -/
theorem firstBest?_percentScores :
    firstBest? PercentScore.beats (registry.percentScores present) =
      (firstBest? (fun challenger best =>
        decide (best.standing present < challenger.standing present)) registry.standards).map
          (·.percentScore present) := by
  rw [percentScores, firstBest?_map]
  simp only [Standard.beats_percentScore]

/-- Percentages choose the first by share, if it reaches the threshold. -/
theorem bestByPercent_eq_some_iff {label : Text} :
    registry.bestByPercent present threshold = some label ↔
      ∃ winner, registry.IsFirstByShare present winner ∧ winner.Reaches present threshold ∧
        winner.label = label := by
  simp only [isFirstByShare_iff, ← firstBest?_eq_some_iff]
  rw [bestByPercent, firstBest?_percentScores]
  cases firstBest? (fun challenger best =>
      decide (best.standing present < challenger.standing present)) registry.standards with
  | none => simp
  | some best => simp [Standard.Reaches, Standard.share, Standard.percentScore]

/-- Percentages choose nothing exactly if no share reaches the threshold. -/
theorem bestByPercent_eq_none_iff :
    registry.bestByPercent present threshold = none ↔
      ∀ standard ∈ registry.standards, ¬ standard.Reaches present threshold := by
  constructor
  · intro nothing standard isStandard reaches
    obtain ⟨winner, isFirst⟩ := exists_isFirstByShare present (List.ne_nil_of_mem isStandard)
    have winnerReaches : winner.Reaches present threshold := by
      obtain ⟨before, after, -, highest, -⟩ := isFirst
      exact reaches.mono (highest standard isStandard)
    have chosen := bestByPercent_eq_some_iff.2 ⟨winner, isFirst, winnerReaches, rfl⟩
    rw [nothing] at chosen
    cases chosen
  · intro noneReaches
    refine Option.eq_none_iff_forall_ne_some.2 fun label chosen => ?_
    obtain ⟨winner, isFirst, reaches, -⟩ := bestByPercent_eq_some_iff.1 chosen
    exact noneReaches winner isFirst.isStandard reaches

/-- Percentages look at nothing but the labels and the canonical tiers. -/
theorem bestByPercent_congr {other : Registry}
    (same : other.standards.map (fun standard => (standard.label, standard.full)) =
      registry.standards.map fun standard => (standard.label, standard.full)) :
    other.bestByPercent present threshold = registry.bestByPercent present threshold := by
  have scores (source : Registry) : source.percentScores present =
      (source.standards.map fun standard => (standard.label, standard.full)).map
        fun (label, full) => ⟨label, percentOf (full.count present) full.size, full.size⟩ := by
    rw [List.map_map]
    rfl
  rw [bestByPercent, bestByPercent, scores, scores, same]

end Registry

/-- The label of an ABI is what the strategy chooses where its selectors are present. -/
theorem classifyAbi_eq_best {abi : Json} {selectors : SelectorSet}
    (accepted : Abi.selectors abi = .ok selectors) (registry : Registry) (strategy : Strategy)
    (threshold : Number) : classifyAbi abi registry strategy threshold =
      .ok (registry.best selectors.contains strategy threshold) := by
  rw [classifyAbi, accepted]
  rfl

/-- The verdict on code is what the strategy chooses where selectors that occur in its text are
present, and what code tells about its delegation if nothing is chosen. -/
theorem classifyCode_tells {bytecode : Json} {code : Code}
    (spelled : Code.ofJson bytecode = .ok code) (registry : Registry) (strategy : Strategy)
    (threshold : Number) :
    ∃ verdict, classifyCode bytecode registry strategy threshold = .ok verdict ∧
      verdict.label? = registry.best (Text.mentions code.text) strategy threshold ∧
      (verdict.label? = none → verdict.finding? = code.finding?) := by
  obtain ⟨isLabel, isFinding⟩ :=
    code.verdictAfter_tells (registry.best (Text.mentions code.text) strategy threshold)
  refine ⟨code.verdict registry strategy threshold, ?_, isLabel, fun noLabel => ?_⟩
  · rw [classifyCode, spelled]
    rfl
  · exact isFinding (isLabel.symm.trans noLabel)

/-- A registry of three standards. The second and the third have one canonical tier, which is twice
as large as that of the first. -/
def doubledTier : Registry :=
  let narrow := SelectorSet.ofList ["a9059cbb", "deadbeef"]
  let wide := SelectorSet.ofList ["a9059cbb", "cafebabe", "deadbeef", "fdd58e"]
  ⟨[⟨"narrow", narrow, narrow, narrow, []⟩, ⟨"wide", narrow, wide, wide, []⟩,
    ⟨"late", narrow, wide, wide, []⟩]⟩

end TokenLens
