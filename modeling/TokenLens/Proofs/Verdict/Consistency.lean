import TokenLens.Proofs.Verdict.Presence

/-!
# The strategies are consistent

Percentages look at the canonical tiers and points at the two others, and yet they cannot disagree
about whether a contract fits anything, if all of a canonical tier is asked for: the least tier lies
inside of it, so a standard whose share is one hundred percent passes the gate
(`Registry.percent_implies_minMax`). It need not be the one that points choose. A standard that
passes the gate has points, at least one for each selector of its least tier.
-/

namespace TokenLens

/-- A contract is taken for the standard that its verdict has as a label. -/
theorem Verdict.label?_eq_some_iff {verdict : Verdict} {label : Text} :
    verdict.label? = some label ↔ verdict = .standard label := by
  cases verdict <;> simp [label?]

section Classified

variable {registry : Registry} {strategy : Strategy} {threshold : Number}

/-- An ABI that was classified has selectors, and its label is what the strategy chooses. -/
theorem exists_of_classifyAbi_eq_ok {abi : Json} {label? : Option Text}
    (classified : classifyAbi abi registry strategy threshold = .ok label?) :
    ∃ selectors, Abi.selectors abi = .ok selectors ∧
      registry.best selectors.contains strategy threshold = label? := by
  obtain ⟨selectors, accepted, computed⟩ := exists_of_bind_eq_ok classified
  exact ⟨selectors, eq_ok_of_mapError_eq_ok accepted, Except.ok.inj computed⟩

/-- What was classified as code spells code, and its label is what the strategy chooses. -/
theorem exists_of_classifyCode_eq_ok {bytecode : Json} {verdict : Verdict}
    (classified : classifyCode bytecode registry strategy threshold = .ok verdict) :
    ∃ code, Code.ofJson bytecode = .ok code ∧
      verdict.label? = registry.best (Text.mentions code.text) strategy threshold := by
  obtain ⟨code, spelled, -⟩ := exists_of_bind_eq_ok classified
  have spelled := eq_ok_of_mapError_eq_ok spelled
  obtain ⟨same, classifiedToo, isLabel, -⟩ := classifyCode_tells spelled registry strategy threshold
  obtain rfl := Except.ok.inj (classified.symm.trans classifiedToo)
  exact ⟨code, spelled, isLabel⟩

end Classified

namespace Registry

variable {registry : Registry} {standards : List Standard} {standard : Standard}
  {present : Text → Bool} {threshold : Number} {label : Text}

/-- If a standard passes the gate, points choose something. -/
theorem exists_bestByPoints (isStandard : standard ∈ registry.standards)
    (passes : standard.PassesGate present) :
    ∃ label, registry.bestByPoints present = some label := by
  refine Option.ne_none_iff_exists'.1 fun nothing => ?_
  obtain ⟨selector, isLeast, absent⟩ :=
    isWinner_none_iff.1 (isWinner_iff.2 nothing) standard isStandard
  rw [passes selector isLeast] at absent
  cases absent

section Full

variable (acceptable : AreAcceptable registry.standards)
  (fine : ∀ standard ∈ registry.standards, standard.full.size ≤ 2 ^ 46)
  (isFull : Number.hundred.le threshold = true)
include acceptable fine isFull

/-- A standard that reaches one hundred percent passes the gate. -/
theorem passesGate_of_reaches (isStandard : standard ∈ registry.standards)
    (reaches : standard.Reaches present threshold) : standard.PassesGate present := by
  have nests := acceptable.nested standard isStandard
  -- A higher threshold is reached by nothing that does not reach one hundred.
  have reachesHundred : standard.Reaches present .hundred := Number.le_trans isFull reaches
  have allPresent := (nests.reaches_hundred_iff (fine standard isStandard)).1 reachesHundred
  exact fun selector isLeast => allPresent selector (nests.minInFull selector isLeast)

/-- If percentages choose something where all of a tier is asked for, points do too. -/
theorem exists_bestByPoints_of_bestByPercent
    (chosen : registry.bestByPercent present threshold = some label) :
    ∃ other, registry.bestByPoints present = some other := by
  obtain ⟨winner, isFirst, reaches, -⟩ := bestByPercent_eq_some_iff.1 chosen
  have passes := passesGate_of_reaches acceptable fine isFull isFirst.isStandard reaches
  exact exists_bestByPoints isFirst.isStandard passes

end Full

/-- In acceptable standards, each that has points has at least as many as selectors of its canonical
tier are present, these are at least as many as its least tier has, and that has one. -/
theorem exists_of_mem_pointScores (acceptable : AreAcceptable registry.standards)
    {score : PointScore} (isScore : score ∈ registry.pointScores present) :
    ∃ standard ∈ registry.standards, standard.PassesGate present ∧
      score = standard.pointScore present ∧ standard.full.count present ≤ score.points ∧
      standard.min.size ≤ standard.full.count present ∧ 1 ≤ standard.min.size := by
  obtain ⟨standard, isKept, rfl⟩ := List.mem_map.1 isScore
  obtain ⟨isStandard, qualified⟩ := List.mem_filter.1 isKept
  have passes := Standard.qualifies_iff.1 qualified
  exact ⟨standard, isStandard, passes, rfl,
    (acceptable.nested standard isStandard).points_of_passesGate passes⟩

/-- In a registry that was accepted, with canonical tiers of a size at which only the whole is
rounded to one hundred percent, and for a threshold of one hundred or more: wherever percentages
choose a label, points choose one too, for every test for presence, every ABI and all code, so the
verdict on such code is never that it is a proxy or nothing. And every standard that has points has
at least as many as selectors of its canonical tier are present, which are at least as many as its
least tier has, which is one or more. -/
theorem percent_implies_minMax (accepted : ofStandards standards = .ok registry)
    (fine : ∀ standard ∈ standards, standard.full.size ≤ 2 ^ 46)
    (isFull : Number.hundred.le threshold = true) (ignored : Number) :
    (∀ (present : Text → Bool) label, registry.best present .percent threshold = some label →
      ∃ other, registry.best present .minMax ignored = some other) ∧
    (∀ abi label, classifyAbi abi registry .percent threshold = .ok (some label) →
      ∃ other, classifyAbi abi registry .minMax ignored = .ok (some other)) ∧
    (∀ bytecode label, classifyCode bytecode registry .percent threshold = .ok (.standard label) →
      ∃ other, classifyCode bytecode registry .minMax ignored = .ok (.standard other)) ∧
    ∀ (present : Text → Bool), ∀ score ∈ registry.pointScores present,
      ∃ standard ∈ standards, standard.PassesGate present ∧
        score = standard.pointScore present ∧ standard.full.count present ≤ score.points ∧
        standard.min.size ≤ standard.full.count present ∧ 1 ≤ standard.min.size := by
  have acceptable := areAcceptable accepted
  obtain ⟨-, rfl⟩ := ofStandards_eq_ok_iff.1 accepted
  have chooses (present : Text → Bool) (label : Text)
      (chosen : registry.best present .percent threshold = some label) :
      ∃ other, registry.best present .minMax ignored = some other :=
    exists_bestByPoints_of_bestByPercent acceptable fine isFull chosen
  refine ⟨chooses, fun abi label classified => ?_, fun bytecode label classified => ?_,
    fun present score isScore => exists_of_mem_pointScores acceptable isScore⟩
  · obtain ⟨selectors, spelled, chosen⟩ := exists_of_classifyAbi_eq_ok classified
    obtain ⟨other, chosenToo⟩ := chooses _ label chosen
    refine ⟨other, ?_⟩
    rw [classifyAbi_eq_best spelled, chosenToo]
  · obtain ⟨code, spelled, isLabel⟩ := exists_of_classifyCode_eq_ok classified
    obtain ⟨other, chosenToo⟩ := chooses _ label isLabel.symm
    obtain ⟨verdict, classifiedToo, isOther, -⟩ :=
      classifyCode_tells spelled registry .minMax ignored
    have isStandard := Verdict.label?_eq_some_iff.1 (isOther.trans chosenToo)
    exact ⟨other, isStandard ▸ classifiedToo⟩

/-- Two standards with one least tier. The first has no more than that, and the second has more in
each further tier. -/
def crossedTiers : Registry :=
  let least := SelectorSet.ofList ["a9059cbb"]
  ⟨[⟨"narrow", least, least, least, []⟩,
    ⟨"wide", least, .ofList ["a9059cbb", "deadbeef"],
      .ofList ["a9059cbb", "deadbeef", "fdd58e"], []⟩]⟩

/-- Where percentages choose the first of two standards, points choose the second. -/
theorem percent_implies_minMax_crossedTiers :
    ofStandards crossedTiers.standards = .ok crossedTiers ∧
    (∀ standard ∈ crossedTiers.standards, standard.full.size ≤ 2 ^ 46) ∧
    Number.hundred.le .hundred = true ∧
    classifyAbi twoFunctions crossedTiers .percent .hundred = .ok (some ("NARROW" : Text)) ∧
    (∃ other, classifyAbi twoFunctions crossedTiers .minMax .hundred = .ok (some other)) ∧
    (∃ other, classifyCode (.str "63a9059cbb") crossedTiers .minMax .hundred =
      .ok (.standard other)) ∧
    (classifyAbi twoFunctions crossedTiers .minMax .hundred).toOption =
      some (some ("WIDE" : Text)) := by
  have accepted : ofStandards crossedTiers.standards = .ok crossedTiers := rfl
  have fine : ∀ standard ∈ crossedTiers.standards, standard.full.size ≤ 2 ^ 46 := by decide
  have isFull : Number.hundred.le .hundred = true := by decide +kernel
  obtain ⟨-, ofAbi, ofCode, -⟩ := percent_implies_minMax accepted fine isFull .hundred
  have classified : classifyAbi twoFunctions crossedTiers .percent .hundred =
      .ok (some ("NARROW" : Text)) := eq_ok_of_toOption (by decide +kernel)
  have isNarrow : classifyCode (.str "63a9059cbb") crossedTiers .percent .hundred =
      .ok (.standard "NARROW") := eq_ok_of_toOption (by decide +kernel)
  exact ⟨accepted, fine, isFull, classified, ofAbi _ _ classified, ofCode _ _ isNarrow,
    by decide +kernel⟩

end Registry

end TokenLens
