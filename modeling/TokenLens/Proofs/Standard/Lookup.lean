import Mathlib.Data.List.Nodup
import TokenLens.Proofs.Standard.Acceptance
import TokenLens.Proofs.Text.SmallLetters

/-!
# Which standards a name finds

A name is put in small letters before it is looked up, and the names of standards are compared as
they are. So a standard is found under its own name exactly if that is its own small form, and under
its label exactly if that has the name as its small form (`Registry.get?_finds`). Plain names, of
ASCII without capitals, are found under both. A name with a capital is never found, and two names
that differ in their capitals share one label.
-/

namespace TokenLens

/-- The name of a standard is plain if it is made of ASCII without capitals. -/
def Standard.IsPlainlyNamed (standard : Standard) : Prop :=
  ∀ point ∈ standard.name, Text.IsPlain point

namespace Registry

variable {registry : Registry} {standards : List Standard} {standard other : Standard}

/-- Acceptable standards with one name are the same. -/
theorem eq_of_name_eq (acceptable : AreAcceptable standards) (isStandard : standard ∈ standards)
    (isOther : other ∈ standards) (sameName : standard.name = other.name) : standard = other :=
  List.inj_on_of_nodup_map acceptable.distinct isStandard isOther sameName

/-- What a name finds is a standard whose name is its small form. -/
theorem name_of_get?_eq_some {name : Text} (found : registry.get? name = some standard) :
    standard ∈ registry.standards ∧ standard.name = Text.lower name := by
  unfold get? at found
  have isNamed := List.find?_some found
  exact ⟨List.mem_of_find?_eq_some found, of_decide_eq_true isNamed⟩

/-- In acceptable standards a name finds the one whose name is its small form. -/
theorem get?_eq_some_iff (acceptable : AreAcceptable registry.standards) {name : Text} :
    registry.get? name = some standard ↔
      standard ∈ registry.standards ∧ standard.name = Text.lower name := by
  constructor
  · exact name_of_get?_eq_some
  · rintro ⟨isStandard, isNamed⟩
    have isFound : (registry.get? name).isSome = true :=
      List.find?_isSome.2 ⟨standard, isStandard, decide_eq_true isNamed⟩
    obtain ⟨first, found⟩ := Option.isSome_iff_exists.1 isFound
    obtain ⟨isFirst, isNamedToo⟩ := name_of_get?_eq_some found
    -- Names stand once, so the first standard of this name is the only one.
    have same := eq_of_name_eq acceptable isFirst isStandard (isNamedToo.trans isNamed.symm)
    rw [found, same]

/-- A standard is found under its own name exactly if that is its own small form. -/
theorem get?_name_eq_some_iff (acceptable : AreAcceptable registry.standards)
    (isStandard : standard ∈ registry.standards) :
    registry.get? standard.name = some standard ↔ Text.lower standard.name = standard.name := by
  rw [get?_eq_some_iff acceptable, and_iff_right isStandard, eq_comm]

/-- A standard is found under its label exactly if its name is the small form of that. -/
theorem get?_label_eq_some_iff (acceptable : AreAcceptable registry.standards)
    (isStandard : standard ∈ registry.standards) :
    registry.get? standard.label = some standard ↔ Text.lower standard.label = standard.name := by
  rw [get?_eq_some_iff acceptable, and_iff_right isStandard, eq_comm]

/-- In a registry that was accepted, a name finds the standard whose name is its small form, and
nothing else. So a standard is found under its own name and under its label as far as these have its
name as their small form: both do for plain names. Standards whose labels have their names as small
forms are told apart by their labels. -/
theorem get?_finds (accepted : ofStandards standards = .ok registry) :
    registry.standards = standards ∧
    (∀ name standard, registry.get? name = some standard ↔
      standard ∈ standards ∧ standard.name = Text.lower name) ∧
    (∀ standard ∈ standards,
      (registry.get? standard.name = some standard ↔ Text.lower standard.name = standard.name) ∧
      (registry.get? standard.label = some standard ↔
        Text.lower standard.label = standard.name) ∧
      (standard.IsPlainlyNamed → registry.get? standard.name = some standard ∧
        registry.get? standard.label = some standard)) ∧
    ∀ standard ∈ standards, ∀ other ∈ standards,
      Text.lower standard.label = standard.name → Text.lower other.label = other.name →
      standard.label = other.label → standard = other := by
  have acceptable := areAcceptable accepted
  obtain ⟨-, isMade⟩ := ofStandards_eq_ok_iff.1 accepted
  subst isMade
  refine ⟨rfl, fun name standard => get?_eq_some_iff acceptable, fun standard isStandard => ?_, ?_⟩
  · have byName := get?_name_eq_some_iff acceptable isStandard
    have byLabel := get?_label_eq_some_iff acceptable isStandard
    refine ⟨byName, byLabel, fun plain => ?_⟩
    exact ⟨byName.2 (Text.lower_of_plain plain), byLabel.2 (Text.lower_upper plain)⟩
  · intro standard isStandard other isOther isSmallForm isSmallFormToo sameLabel
    have sameName : standard.name = other.name := by
      rw [← isSmallForm, sameLabel, isSmallFormToo]
    exact eq_of_name_eq acceptable isStandard isOther sameName

/-- A standard of a name with one selector in all of its tiers. -/
def singleSelector (name : Text) : Standard :=
  let tier := SelectorSet.ofList ["a9059cbb"]
  ⟨name, tier, tier, tier, []⟩

/-- Of two standards the one with a plain name is found under its name and its label, and the other,
whose name has a capital, under neither. -/
theorem get?_finds_plainName :
    let plain := singleSelector "erc-20"
    let capital := singleSelector "Vault"
    ∃ registry, ofStandards [plain, capital] = .ok registry ∧
      registry.get? "Erc-20" = some plain ∧ registry.get? plain.name = some plain ∧
      registry.get? plain.label = some plain ∧ registry.get? capital.name ≠ some capital ∧
      registry.get? capital.label ≠ some capital := by
  intro plain capital
  have accepted : ofStandards [plain, capital] = .ok ⟨[plain, capital]⟩ := rfl
  obtain ⟨-, finds, found, -⟩ := get?_finds accepted
  have isPlain : plain.IsPlainlyNamed := by
    unfold Standard.IsPlainlyNamed Text.IsPlain Text.IsCapital
    decide
  obtain ⟨-, -, both⟩ := found plain List.mem_cons_self
  obtain ⟨byName, byLabel, -⟩ := found capital (List.mem_cons_of_mem _ List.mem_cons_self)
  refine ⟨_, accepted, (finds _ _).2 ⟨List.mem_cons_self, by decide⟩, (both isPlain).1,
    (both isPlain).2, ?_, ?_⟩
  · rw [ne_eq, byName]
    decide
  · rw [ne_eq, byLabel]
    decide

/-- A standard whose name has a capital is accepted, and no name at all finds it, its own name and
its label included; beside it stands another with the same label. -/
theorem get?_misses_capitals :
    let capital := singleSelector "Vault"
    let small := singleSelector "vault"
    ∃ registry, ofStandards [capital, small] = .ok registry ∧ capital ∈ registry.standards ∧
      (∀ name, registry.get? name ≠ some capital) ∧
      registry.get? capital.name = some small ∧ registry.get? capital.label = some small ∧
      capital.label = small.label ∧ capital ≠ small := by
  intro capital small
  have accepted : ofStandards [capital, small] = .ok ⟨[capital, small]⟩ := rfl
  have acceptable := areAcceptable accepted
  have isSmall : small ∈ [capital, small] := List.mem_cons_of_mem _ List.mem_cons_self
  refine ⟨_, accepted, List.mem_cons_self, fun name found => ?_,
    (get?_eq_some_iff acceptable).2 ⟨isSmall, by decide⟩,
    (get?_eq_some_iff acceptable).2 ⟨isSmall, by decide⟩, by decide, fun same => ?_⟩
  · obtain ⟨-, isNamed⟩ := name_of_get?_eq_some found
    have isPart : CodePoint.char 'V' ∈ Text.lower name := by
      rw [← isNamed]
      exact List.mem_cons_self
    exact Text.not_isCapital_of_mem_lower isPart (by unfold Text.IsCapital; decide)
  · have sameName : capital.name = small.name := congrArg Standard.name same
    revert sameName
    decide

end Registry

end TokenLens
