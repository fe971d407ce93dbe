import Mathlib.Data.Nat.Basic
import Mathlib.Order.Lattice
import TokenLens.Verdict.Score

/-!
# Winners

What it takes to win, without the order in which a ranking is computed. The first best element of a
list beats all before it and is beaten by none behind it; a list has one unless it is empty. A label
wins by points if its standard qualifies and is the first best of those that do, and no label wins
if no standard qualifies (`Registry.isWinner_iff`).
-/

namespace TokenLens

section FirstBest

variable {α β : Type} [LinearOrder β] {rank : α → β} {items seen : List α} {best other : α}

/-- An element that ranks above all before it, and below none behind it. -/
def IsFirstBest (rank : α → β) (items : List α) (best : α) : Prop :=
  ∃ before after, items = before ++ best :: after ∧
    (∀ item ∈ before, rank item < rank best) ∧ ∀ item ∈ after, rank item ≤ rank best

/-- No element ranks above the first best. -/
theorem IsFirstBest.rank_le (isBest : IsFirstBest rank items best) {item : α}
    (isItem : item ∈ items) : rank item ≤ rank best := by
  obtain ⟨before, after, rfl, above, notBelow⟩ := isBest
  rcases List.mem_append.1 isItem with isBefore | isRest
  · exact le_of_lt (above item isBefore)
  · rcases List.mem_cons.1 isRest with rfl | isAfter
    · exact le_rfl
    · exact notBelow item isAfter

/-- One more element is the first best if it ranks above the first best before it. -/
theorem IsFirstBest.step (isBest : IsFirstBest rank seen best) (next : α) :
    IsFirstBest rank (seen ++ [next])
      (if decide (rank best < rank next) then next else best) := by
  by_cases higher : rank best < rank next
  · rw [if_pos (decide_eq_true higher)]
    refine ⟨seen, [], rfl, fun item isItem => ?_, by simp⟩
    exact lt_of_le_of_lt (isBest.rank_le isItem) higher
  · rw [if_neg (by simpa using higher)]
    obtain ⟨before, after, rfl, above, notBelow⟩ := isBest
    refine ⟨before, after ++ [next], by simp, above, List.forall_mem_append.2 ⟨notBelow, ?_⟩⟩
    simpa using higher

/-- The best so far stays the first best as elements are added. -/
theorem IsFirstBest.foldl (isBest : IsFirstBest rank seen best) (rest : List α) :
    IsFirstBest rank (seen ++ rest)
      (rest.foldl (fun best next => if decide (rank best < rank next) then next else best)
        best) := by
  induction rest generalizing seen best with
  | nil => simpa using isBest
  | cons next rest inductionHypothesis => simpa using inductionHypothesis (isBest.step next)

/-- A list has one first best element. -/
theorem IsFirstBest.unique (isBest : IsFirstBest rank items best)
    (isOther : IsFirstBest rank items other) : best = other := by
  obtain ⟨before, after, split, above, notBelow⟩ := isBest
  obtain ⟨otherBefore, otherAfter, rfl, otherAbove, otherNotBelow⟩ := isOther
  rcases List.append_eq_append_iff.1 split with ⟨gap, isBefore, isRest⟩ | ⟨gap, isBefore, isRest⟩
  · cases gap with
    | nil => exact (List.cons.inj isRest).1.symm
    | cons first gap =>
        -- The other element comes first, so it would have to rank above and not above.
        obtain ⟨rfl, rfl⟩ := List.cons.inj isRest
        have higher := above other (by simp [isBefore])
        have notHigher := otherNotBelow best (by simp)
        exact absurd higher (not_lt_of_ge notHigher)
  · cases gap with
    | nil => exact (List.cons.inj isRest).1
    | cons first gap =>
        obtain ⟨rfl, rfl⟩ := List.cons.inj isRest
        have higher := otherAbove best (by simp [isBefore])
        have notHigher := notBelow other (by simp)
        exact absurd higher (not_lt_of_ge notHigher)

/-- The search for the first best finds it. -/
theorem firstBest?_eq_some_iff :
    firstBest? (fun challenger best => decide (rank best < rank challenger)) items = some best ↔
      IsFirstBest rank items best := by
  have finds (first : α) (rest : List α) : IsFirstBest rank (first :: rest)
      (rest.foldl (fun best next => if decide (rank best < rank next) then next else best)
        first) := by
    have alone : IsFirstBest rank [first] first := ⟨[], [], rfl, by simp, by simp⟩
    exact alone.foldl rest
  cases items with
  | nil =>
      constructor
      · rintro found
        cases found
      · rintro ⟨before, after, split, -⟩
        simp at split
  | cons first rest =>
      constructor
      · rintro found
        obtain rfl := Option.some.inj found
        exact finds first rest
      · intro isBest
        exact congrArg some ((finds first rest).unique isBest)

/-- The first best of images is the image of the first best. -/
theorem firstBest?_map {γ : Type} (image : γ → α) (beats : α → α → Bool) (sources : List γ) :
    firstBest? beats (sources.map image) =
      (firstBest? (fun challenger best => beats (image challenger) (image best)) sources).map
        image := by
  cases sources with
  | nil => rfl
  | cons first rest =>
      rw [List.map_cons, firstBest?, List.foldl_map, firstBest?, Option.map_some]
      refine congrArg some (List.foldl_hom image fun best next => ?_)
      exact (apply_ite image (beats (image next) (image best)) next best).symm

/-- The search for the first best finds nothing only where there is nothing. -/
theorem firstBest?_eq_none_iff {beats : α → α → Bool} :
    firstBest? beats items = none ↔ items = [] := by
  cases items with
  | nil => simp [firstBest?]
  | cons first rest => simp [firstBest?]

end FirstBest

namespace Registry

variable {present : Text → Bool} {registry : Registry} {label : Option Text}

/-- The label that wins by points under a test for presence: that of the first best of the standards
whose whole least tier is present, and none if there is no such standard. -/
inductive IsWinner (present : Text → Bool) (registry : Registry) : Option Text → Prop where
  | first {before after : List Standard} {standard : Standard}
      (split : registry.standards = before ++ standard :: after)
      (qualified : standard.qualifies present = true)
      (ahead : ∀ other ∈ before, other.qualifies present = true →
        other.max.count present < standard.max.count present)
      (notBehind : ∀ other ∈ after, other.qualifies present = true →
        other.max.count present ≤ standard.max.count present) :
      IsWinner present registry (some standard.label)
  | nobody (unqualified : ∀ standard ∈ registry.standards, standard.qualifies present = false) :
      IsWinner present registry none

/-- Points choose a winner. -/
theorem isWinner_bestByPoints : registry.IsWinner present (registry.bestByPoints present) := by
  unfold bestByPoints
  cases found : firstBest? (fun challenger best => decide (best.points < challenger.points))
      (registry.pointScores present) with
  | none =>
      refine .nobody fun standard isStandard => Bool.eq_false_iff.2 fun qualified => ?_
      have nothing := firstBest?_eq_none_iff.1 found
      simp only [pointScores, List.map_eq_nil_iff, List.filter_eq_nil_iff] at nothing
      exact nothing standard isStandard qualified
  | some best =>
      obtain ⟨scoresBefore, scoresAfter, split, ahead, notBehind⟩ := firstBest?_eq_some_iff.1 found
      -- The scores split as the standards do that have them.
      obtain ⟨kept, others, isKept, rfl, areOthers⟩ := List.map_eq_append_iff.1 split
      obtain ⟨standard, keptAfter, rfl, rfl, rfl⟩ := List.map_eq_cons_iff.1 areOthers
      obtain ⟨before, rest, isSplit, rfl, isRest⟩ := List.filter_eq_append_iff.1 isKept
      obtain ⟨skipped, after, rfl, unqualified, qualified, rfl⟩ := List.filter_eq_cons_iff.1 isRest
      have splits : registry.standards = (before ++ skipped) ++ standard :: after := by
        simpa using isSplit
      refine .first splits qualified ?_ ?_
      · intro other isOther otherQualified
        rcases List.mem_append.1 isOther with isBefore | isSkipped
        · exact ahead _ (List.mem_map_of_mem (List.mem_filter.2 ⟨isBefore, otherQualified⟩))
        · exact absurd otherQualified (unqualified other isSkipped)
      · intro other isOther otherQualified
        exact notBehind _ (List.mem_map_of_mem (List.mem_filter.2 ⟨isOther, otherQualified⟩))

/-- A winner is what points choose. -/
theorem IsWinner.eq_bestByPoints (isWinner : registry.IsWinner present label) :
    registry.bestByPoints present = label := by
  cases isWinner with
  | @first before after standard split qualified ahead notBehind =>
      have isBest : IsFirstBest PointScore.points (registry.pointScores present)
          (standard.pointScore present) := by
        refine ⟨(before.filter (·.qualifies present)).map (·.pointScore present),
          (after.filter (·.qualifies present)).map (·.pointScore present), ?_, ?_, ?_⟩
        · simp [pointScores, split, qualified]
        · intro score isScore
          obtain ⟨other, isKept, rfl⟩ := List.mem_map.1 isScore
          obtain ⟨isOther, otherQualified⟩ := List.mem_filter.1 isKept
          exact ahead other isOther otherQualified
        · intro score isScore
          obtain ⟨other, isKept, rfl⟩ := List.mem_map.1 isScore
          obtain ⟨isOther, otherQualified⟩ := List.mem_filter.1 isKept
          exact notBehind other isOther otherQualified
      rw [bestByPoints, firstBest?_eq_some_iff.2 isBest]
      rfl
  | nobody unqualified =>
      have nothing : registry.pointScores present = [] := by
        simpa [pointScores] using unqualified
      rw [bestByPoints, nothing]
      rfl

/-- The winner is the label that points choose. -/
theorem isWinner_iff : registry.IsWinner present label ↔ registry.bestByPoints present = label := by
  constructor
  · exact IsWinner.eq_bestByPoints
  · rintro rfl
    exact isWinner_bestByPoints

end Registry

end TokenLens
