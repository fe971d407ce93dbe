import TokenLens.Proofs.Abi.Compatibility
import TokenLens.Proofs.Verdict.Winner

/-!
# Through the gate of the least tier

What the strategy of points decides, told by selectors alone. A standard passes the gate if every
selector of its least tier is present. Nothing is chosen exactly if no standard passes; otherwise
the choice is the first of those that pass with the most selectors of the widest tier present. The
statement is about every test for presence, and about the two that are used: membership among the
selectors of an ABI, and occurrence in the text of code. Code for which nothing is chosen is told
apart by how it delegates.
-/

namespace TokenLens

namespace Standard

variable {present : Text → Bool} {standard : Standard}

/-- A standard passes the gate if every selector of its least tier is present. -/
def PassesGate (present : Text → Bool) (standard : Standard) : Prop :=
  ∀ selector ∈ standard.min, present selector = true

/-- To qualify is to pass the gate. -/
theorem qualifies_iff : standard.qualifies present = true ↔ standard.PassesGate present :=
  List.all_eq_true

/-- A standard that does not qualify has a selector in its least tier that is absent. -/
theorem qualifies_eq_false_iff :
    standard.qualifies present = false ↔ ∃ selector ∈ standard.min, present selector = false := by
  rw [← Bool.not_eq_true, qualifies_iff, PassesGate]
  simp

end Standard

namespace Registry

variable {present : Text → Bool} {registry : Registry}

/-- A standard that passes the gate, with the most selectors of its widest tier present among all
that pass, and more than any that comes before it. -/
def IsFirstThroughGate (present : Text → Bool) (registry : Registry) (winner : Standard) : Prop :=
  ∃ before after, registry.standards = before ++ winner :: after ∧
    winner.PassesGate present ∧
    (∀ other ∈ registry.standards, other.PassesGate present →
      other.max.count present ≤ winner.max.count present) ∧
    ∀ other ∈ before, other.PassesGate present →
      other.max.count present < winner.max.count present

/-- The label that wins is that of the first standard through the gate. -/
theorem isWinner_some_iff {label : Text} :
    registry.IsWinner present (some label) ↔
      ∃ winner, registry.IsFirstThroughGate present winner ∧ winner.label = label := by
  constructor
  · intro isWinner
    cases isWinner with
    | @first before after standard split qualified ahead notBehind =>
        have ahead : ∀ other ∈ before, other.PassesGate present →
            other.max.count present < standard.max.count present := fun other isBefore passes =>
          ahead other isBefore (Standard.qualifies_iff.2 passes)
        have most : ∀ other ∈ registry.standards, other.PassesGate present →
            other.max.count present ≤ standard.max.count present := by
          intro other isOther passes
          rw [split] at isOther
          rcases List.mem_append.1 isOther with isBefore | isRest
          · exact (ahead other isBefore passes).le
          · rcases List.mem_cons.1 isRest with rfl | isAfter
            · exact le_rfl
            · exact notBehind other isAfter (Standard.qualifies_iff.2 passes)
        exact ⟨standard,
          ⟨before, after, split, Standard.qualifies_iff.1 qualified, most, ahead⟩, rfl⟩
  · rintro ⟨winner, ⟨before, after, split, passes, most, ahead⟩, rfl⟩
    refine .first split (Standard.qualifies_iff.2 passes) ?_ ?_
    · intro other isBefore qualified
      exact ahead other isBefore (Standard.qualifies_iff.1 qualified)
    · intro other isAfter qualified
      have isOther : other ∈ registry.standards := by simp [split, isAfter]
      exact most other isOther (Standard.qualifies_iff.1 qualified)

/-- No label wins exactly if every standard lacks a selector of its least tier. -/
theorem isWinner_none_iff :
    registry.IsWinner present none ↔
      ∀ standard ∈ registry.standards, ∃ selector ∈ standard.min, present selector = false := by
  constructor
  · intro isWinner
    cases isWinner with
    | nobody unqualified =>
        exact fun standard isStandard =>
          Standard.qualifies_eq_false_iff.1 (unqualified standard isStandard)
  · intro lacks
    exact .nobody fun standard isStandard =>
      Standard.qualifies_eq_false_iff.2 (lacks standard isStandard)

end Registry

/-- A verdict after a search for a label has that label, and what code tells about its delegation if
there is none. -/
theorem Code.verdictAfter_tells (code : Code) (label? : Option Text) :
    (code.verdictAfter label?).label? = label? ∧
      (label? = none → (code.verdictAfter label?).finding? = code.finding?) := by
  cases label? with
  | some label => exact ⟨rfl, nofun⟩
  | none =>
      rw [verdictAfter]
      cases code.finding? with
      | some finding => exact ⟨rfl, fun _ => rfl⟩
      | none => exact ⟨rfl, fun _ => rfl⟩

/-- A registry whose two standards ask for one function each and reward both. -/
def eitherFunction : Registry :=
  let both := SelectorSet.ofList ["a9059cbb", "fdd58e"]
  ⟨[⟨"early", .ofList ["a9059cbb"], both, both, []⟩, ⟨"late", .ofList ["fdd58e"], both, both, []⟩]⟩

end TokenLens
