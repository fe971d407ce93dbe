import Mathlib.Data.List.Basic
import Mathlib.Tactic.MkIffOfInductiveProp
import TokenLens.Proofs.Outcome
import TokenLens.Standard.Registry

/-!
# What a registry accepts

The standards of a registry are checked one after the other, each against the names before it and
then against itself. All checks together accept exactly the lists with a standard, without a name
that stands twice, and with tiers that nest above a least tier that is not empty
(`Registry.ofStandards_eq_ok_iff`).
-/

namespace TokenLens

/-- A set is empty if nothing is a member. -/
theorem SelectorSet.isEmpty_iff {set : SelectorSet} :
    set.isEmpty = true ↔ ∀ selector, selector ∉ set := by
  rw [isEmpty, List.isEmpty_iff, List.eq_nil_iff_forall_not_mem]
  rfl

/-- Nothing of a set is outside of another if the other holds all of it. -/
theorem SelectorSet.isEmpty_without_iff {set other : SelectorSet} :
    (set.without other).isEmpty = true ↔ ∀ selector ∈ set, selector ∈ other := by
  rw [List.isEmpty_iff, List.eq_nil_iff_forall_not_mem]
  simp

namespace Standard

variable {standard : Standard} {standards : List Standard} {seen : List Text}

/-- The least tier holds a selector, and each tier lies inside of the next. -/
@[mk_iff]
structure Nests (standard : Standard) : Prop where
  someSelector : ∃ selector, selector ∈ standard.min
  minInFull : ∀ selector ∈ standard.min, selector ∈ standard.full
  fullInMax : ∀ selector ∈ standard.full, selector ∈ standard.max

/-- The tiers of a standard that is accepted nest. -/
theorem validate_eq_ok_iff : standard.validate = .ok () ↔ standard.Nests := by
  have someSelector : standard.min.isEmpty = false ↔ ∃ selector, selector ∈ standard.min := by
    rw [Bool.eq_false_iff, ne_eq, SelectorSet.isEmpty_iff]
    simp
  unfold validate
  dsimp only
  split
  next nothing =>
    refine iff_of_false nofun fun nests => ?_
    rw [someSelector.2 nests.someSelector] at nothing
    cases nothing
  next something =>
    split
    next outside =>
      refine iff_of_false nofun fun nests => ?_
      rw [SelectorSet.isEmpty_without_iff.2 nests.minInFull] at outside
      cases outside
    next inFull =>
      split
      next outside =>
        refine iff_of_false nofun fun nests => ?_
        rw [SelectorSet.isEmpty_without_iff.2 nests.fullInMax] at outside
        cases outside
      next inMax =>
        refine iff_of_true rfl ⟨?_, ?_, ?_⟩
        · exact someSelector.1 (Bool.eq_false_iff.2 something)
        · exact SelectorSet.isEmpty_without_iff.1 (by simpa using inFull)
        · exact SelectorSet.isEmpty_without_iff.1 (by simpa using inMax)

/-- Standards are accepted one after the other if no two have one name, none has a name that was
seen before, and the tiers of each nest. -/
theorem validateAll_eq_ok_iff : validateAll seen standards = .ok () ↔
    (standards.map name).Nodup ∧ (∀ standard ∈ standards, standard.name ∉ seen) ∧
      ∀ standard ∈ standards, standard.Nests := by
  induction standards generalizing seen with
  | nil => simp [validateAll]
  | cons standard rest inductionHypothesis =>
      rw [validateAll]
      by_cases isSeen : standard.name ∈ seen
      · rw [if_pos (List.contains_iff_mem.2 isSeen)]
        refine iff_of_false nofun fun accepted => ?_
        obtain ⟨-, unseen, -⟩ := accepted
        exact unseen standard List.mem_cons_self isSeen
      · have notSeen : ¬ seen.contains standard.name = true := by simpa using isSeen
        rw [if_neg notSeen]
        -- The names seen later are those seen now and the one at hand.
        have onward : (do standard.validate; validateAll (standard.name :: seen) rest) = .ok () ↔
            standard.validate = .ok () ∧ validateAll (standard.name :: seen) rest = .ok () := by
          constructor
          · intro computed
            obtain ⟨⟨⟩, validated, computed⟩ := exists_of_bind_eq_ok computed
            exact ⟨validated, computed⟩
          · rintro ⟨validated, computed⟩
            rw [validated]
            exact computed
        rw [onward, validate_eq_ok_iff, inductionHypothesis]
        simp only [List.map_cons, List.nodup_cons, List.mem_cons, not_or, List.mem_map]
        grind

end Standard

namespace Registry

variable {registry : Registry} {standards : List Standard}

/-- There is a standard, no two have one name, and the tiers of each nest. -/
@[mk_iff]
structure AreAcceptable (standards : List Standard) : Prop where
  someStandard : standards ≠ []
  distinct : (standards.map Standard.name).Nodup
  nested : ∀ standard ∈ standards, standard.Nests

/-- Exactly the acceptable standards make a registry, which holds them in their order. -/
theorem ofStandards_eq_ok_iff :
    ofStandards standards = .ok registry ↔
      AreAcceptable standards ∧ registry.standards = standards := by
  unfold ofStandards
  cases standards with
  | nil => exact iff_of_false nofun fun accepted => accepted.1.someStandard rfl
  | cons first rest =>
      rw [if_neg (by simp)]
      constructor
      · intro computed
        obtain ⟨⟨⟩, validated, made⟩ := exists_of_bind_eq_ok computed
        obtain ⟨distinct, -, nested⟩ := Standard.validateAll_eq_ok_iff.1 validated
        obtain rfl := Except.ok.inj made
        exact ⟨⟨List.cons_ne_nil _ _, distinct, nested⟩, rfl⟩
      · rintro ⟨acceptable, isMade⟩
        have validated : Standard.validateAll [] (first :: rest) = .ok () :=
          Standard.validateAll_eq_ok_iff.2
            ⟨acceptable.distinct, fun _ _ => List.not_mem_nil, acceptable.nested⟩
        rw [validated, ← isMade]
        rfl

/-- Standards are refused exactly if they are not acceptable. -/
theorem exists_ofStandards_eq_error_iff :
    (∃ fault, ofStandards standards = .error fault) ↔ ¬ AreAcceptable standards := by
  constructor
  · rintro ⟨fault, refused⟩ acceptable
    have accepted : ofStandards standards = .ok ⟨standards⟩ :=
      ofStandards_eq_ok_iff.2 ⟨acceptable, rfl⟩
    rw [accepted] at refused
    cases refused
  · intro notAcceptable
    cases outcome : ofStandards standards with
    | ok registry => exact absurd (ofStandards_eq_ok_iff.1 outcome).1 notAcceptable
    | error fault => exact ⟨fault, rfl⟩

/-- The standards of a registry that was accepted are acceptable. -/
theorem areAcceptable (accepted : ofStandards standards = .ok registry) :
    AreAcceptable registry.standards := by
  obtain ⟨acceptable, rfl⟩ := ofStandards_eq_ok_iff.1 accepted
  exact acceptable

/-- In other words: there is no standard, a name stands twice, a least tier is empty, or a tier does
not lie inside of the next. -/
theorem not_areAcceptable_iff : ¬ AreAcceptable standards ↔
    standards = [] ∨ ¬ (standards.map Standard.name).Nodup ∨
      ∃ standard ∈ standards, (∀ selector, selector ∉ standard.min) ∨
        (∃ selector ∈ standard.min, selector ∉ standard.full) ∨
        ∃ selector ∈ standard.full, selector ∉ standard.max := by
  simp only [areAcceptable_iff, Standard.nests_iff, not_and_or, not_not, not_forall, not_exists,
    ne_eq, exists_prop]

end Registry

end TokenLens
