import Mathlib.Data.List.Forall2
import TokenLens.Proofs.Keyed
import TokenLens.Proofs.Outcome
import TokenLens.Standard.Bundled
import TokenLens.Standard.Files

/-!
# Which selectors have names

A registry names a selector in code exactly if the selector is in the widest tier of a standard
whose widest tier was given as a list of entries (`Registry.describeLiterals_names`). The tier and
the names come from one ABI, but the tier is taken from every form of it and the names from its list
form alone: a widest tier that was given as a text or as an artifact has no names at all. All
selectors in the widest tiers of the bundled registry have names.
-/

namespace TokenLens

/-- If a step for each item of a list ends in values, they are those of the items. -/
theorem forall₂_of_mapM_eq_ok {ε α β : Type} {step : α → Except ε β} {items : List α}
    {values : List β} (computed : items.mapM step = .ok values) :
    List.Forall₂ (fun item value => step item = .ok value) items values := by
  induction items generalizing values with
  | nil =>
      obtain rfl := Except.ok.inj computed
      exact .nil
  | cons item rest inductionHypothesis =>
      rw [List.mapM_cons] at computed
      obtain ⟨value, here, computed⟩ := exists_of_bind_eq_ok computed
      obtain ⟨others, later, computed⟩ := exists_of_bind_eq_ok computed
      obtain rfl := Except.ok.inj computed
      exact .cons here (inductionHypothesis later)

/-- The selectors of a list are those of the declarations that its entries make. -/
theorem Abi.selectors_arr {entries : List Json} {declarations : List Declaration}
    (declared : Declaration.ofEntries entries = .ok declarations) :
    selectors (.arr entries) = .ok (selectorsOf declarations) := by
  change ((Declaration.ofEntries entries).mapError AbiError.entry).map selectorsOf = _
  rw [declared]
  rfl

namespace Standard

variable {name selector : Text} {min full max : Json} {standard : Standard}

/-- Declarations name the selectors that they have. -/
theorem isSome_get?_namesOf {declarations : List Declaration} :
    (Keyed.get? selector (namesOf declarations)).isSome = true ↔
      selector ∈ Abi.selectorsOf declarations := by
  rw [namesOf, Keyed.isSome_get?_ofList, List.map_map, Abi.selectorsOf, SelectorSet.mem_ofList]
  rfl

/-- A standard given in layers names the selectors in its widest tier. -/
theorem isSome_get?_names_ofLayers (name : Text) (core canonical extensions : List Declaration) :
    (Keyed.get? selector (ofLayers name core canonical extensions).names).isSome = true ↔
      selector ∈ (ofLayers name core canonical extensions).max :=
  isSome_get?_namesOf

/-- A widest tier that is no list names nothing. -/
theorem ownEntries_eq_nil {abi : Json} (noList : ∀ entries, abi ≠ .arr entries) :
    ownEntries abi = [] := by
  cases abi with
  | arr entries => exact absurd rfl (noList entries)
  | _ => rfl

/-- A standard made of ABIs has the selectors of the widest one as its widest tier, and names
selectors by the declarations that this lists by itself. -/
theorem exists_declarations_of_ofAbis (made : ofAbis name min full max = .ok standard) :
    Abi.selectors max = .ok standard.max ∧
      ∃ declarations, Declaration.ofEntries (ownEntries max) = .ok declarations ∧
        standard.names = namesOf declarations := by
  unfold ofAbis at made
  obtain ⟨minSelectors, -, made⟩ := exists_of_bind_eq_ok made
  obtain ⟨fullSelectors, -, made⟩ := exists_of_bind_eq_ok made
  obtain ⟨maxSelectors, widest, made⟩ := exists_of_bind_eq_ok made
  obtain ⟨declarations, declared, made⟩ := exists_of_bind_eq_ok made
  obtain rfl := Except.ok.inj made
  exact ⟨widest, declarations, eq_ok_of_mapError_eq_ok declared, rfl⟩

/-- A standard made of ABIs names the selectors in its widest tier, if that was given as a list. -/
theorem isSome_get?_names_of_ofAbis (made : ofAbis name min full max = .ok standard)
    (selector : Text) :
    (Keyed.get? selector standard.names).isSome = true ↔
      (∃ entries, max = .arr entries) ∧ selector ∈ standard.max := by
  obtain ⟨widest, declarations, declared, areNames⟩ := exists_declarations_of_ofAbis made
  rw [areNames, isSome_get?_namesOf]
  by_cases isList : ∃ entries, max = .arr entries
  · obtain ⟨entries, rfl⟩ := isList
    have same : Abi.selectorsOf declarations = standard.max :=
      Except.ok.inj ((Abi.selectors_arr declared).symm.trans widest)
    simp [same]
  · rw [ownEntries_eq_nil (not_exists.1 isList)] at declared
    obtain rfl := Except.ok.inj declared
    simp [isList, Abi.selectorsOf]

end Standard

/-- The standard of tiers names the selectors in its widest tier, if that was given as a list. -/
theorem TierAbis.isSome_get?_names {tier : TierAbis} {standard : Standard}
    (made : tier.standard = .ok standard) (selector : Text) :
    (Keyed.get? selector standard.names).isSome = true ↔
      (∃ entries, tier.max = .arr entries) ∧ selector ∈ standard.max :=
  Standard.isSome_get?_names_of_ofAbis (eq_ok_of_mapError_eq_ok made) selector

namespace Registry

variable {registry : Registry} {tiers : List TierAbis} {selector : Text}

/-- A registry of standards holds these standards. -/
theorem standards_of_ofStandards {standards : List Standard}
    (accepted : ofStandards standards = .ok registry) : registry.standards = standards := by
  unfold ofStandards at accepted
  split at accepted
  · cases accepted
  · obtain ⟨-, -, accepted⟩ := exists_of_bind_eq_ok accepted
    rw [← Except.ok.inj accepted]

/-- A registry was built from the ABIs of tiers, which were handed over or read from files. -/
inductive IsBuiltFrom (registry : Registry) (tiers : List TierAbis) : Prop where
  | abis (built : ofAbis tiers = .ok registry)
  | files {contents : Text → Option Text} {names : List Text}
      (read : List.Forall₂ (fun name tier => TierAbis.ofFiles contents name = .ok tier) names tiers)
      (built : ofFiles contents names = .ok registry)

/-- A registry that was built from tiers holds their standards. -/
theorem IsBuiltFrom.standards (isBuilt : registry.IsBuiltFrom tiers) :
    List.Forall₂ (fun tier standard => TierAbis.standard tier = .ok standard) tiers
      registry.standards := by
  cases isBuilt with
  | abis built =>
      obtain ⟨standards, made, accepted⟩ := exists_of_bind_eq_ok built
      rw [standards_of_ofStandards (eq_ok_of_mapError_eq_ok accepted)]
      exact forall₂_of_mapM_eq_ok made
  | @files contents names read built =>
      obtain ⟨standards, mapped, accepted⟩ := exists_of_bind_eq_ok built
      rw [standards_of_ofStandards (eq_ok_of_mapError_eq_ok accepted)]
      have made := forall₂_of_mapM_eq_ok mapped
      clear built mapped accepted
      -- The files of one name after the other: those of a name that were read make its standard.
      induction read generalizing standards with
      | nil =>
          cases made
          exact .nil
      | cons isRead _ inductionHypothesis =>
          cases made with
          | cons here later =>
              obtain ⟨tier, isReadToo, isMade⟩ := exists_of_bind_eq_ok here
              obtain rfl := Except.ok.inj (isRead.symm.trans isReadToo)
              exact .cons isMade (inductionHypothesis _ later)

/-- Each standard of such a registry is that of some tiers. -/
theorem IsBuiltFrom.exists_tier (isBuilt : registry.IsBuiltFrom tiers) {standard : Standard}
    (isStandard : standard ∈ registry.standards) :
    ∃ tier ∈ tiers, tier.standard = .ok standard := by
  have made := isBuilt.standards
  generalize registry.standards = standards at isStandard made
  clear isBuilt
  induction made with
  | nil => cases isStandard
  | @cons tier first _ _ here _ inductionHypothesis =>
      rcases List.mem_cons.1 isStandard with rfl | isLater
      · exact ⟨tier, List.mem_cons_self, here⟩
      · obtain ⟨tier, isTier, made⟩ := inductionHypothesis isLater
        exact ⟨tier, List.mem_cons_of_mem _ isTier, made⟩

/-- A selector has a name exactly if a standard names its spelling. -/
theorem isSome_describe : (registry.describe selector).isSome = true ↔
    ∃ standard ∈ registry.standards,
      (Keyed.get? (Selector.ofText selector) standard.names).isSome = true := by
  simp [describe, List.findSome?_isSome_iff]

/-- What is described are the literals of the code. -/
theorem mem_describeLiterals {code : Code} {text? : Option Text} :
    (selector, text?) ∈ registry.describeLiterals code ↔
      selector ∈ code.literals ∧ registry.describe selector = text? := by
  simp [describeLiterals, SelectorSet.mem_toList]

/-- In a registry that was built from the ABIs of tiers, exactly the literals of code are described.
One is described by a text exactly if its spelling is in the widest tier of a standard whose widest
tier was given as a list of entries. The bundled registry describes exactly the literals whose
spelling is in the widest tier of a standard. -/
theorem describeLiterals_names (isBuilt : registry.IsBuiltFrom tiers) (code : Code) :
    (registry.describeLiterals code).map Prod.fst = code.literals.toList ∧
    (∀ selector text?, (selector, text?) ∈ registry.describeLiterals code →
      (text?.isSome = true ↔ ∃ tier ∈ tiers, ∃ standard ∈ registry.standards,
        tier.standard = .ok standard ∧ (∃ entries, tier.max = .arr entries) ∧
        Selector.ofText selector ∈ standard.max)) ∧
    ∀ selector text?, (selector, text?) ∈ bundled.describeLiterals code →
      (text?.isSome = true ↔ ∃ standard ∈ bundled.standards,
        Selector.ofText selector ∈ standard.max) := by
  refine ⟨?_, fun selector text? described => ?_, fun selector text? described => ?_⟩
  · simp [describeLiterals, Function.comp_def]
  · obtain ⟨-, rfl⟩ := mem_describeLiterals.1 described
    rw [isSome_describe]
    constructor
    · rintro ⟨standard, isStandard, named⟩
      obtain ⟨tier, isTier, made⟩ := isBuilt.exists_tier isStandard
      obtain ⟨isList, isWidest⟩ := (TierAbis.isSome_get?_names made _).1 named
      exact ⟨tier, isTier, standard, isStandard, made, isList, isWidest⟩
    · rintro ⟨tier, -, standard, isStandard, made, isList, isWidest⟩
      have named := (TierAbis.isSome_get?_names made _).2 ⟨isList, isWidest⟩
      exact ⟨standard, isStandard, named⟩
  · obtain ⟨-, rfl⟩ := mem_describeLiterals.1 described
    have names (standard : Standard) (isStandard : standard ∈ bundled.standards) :
        (Keyed.get? (Selector.ofText selector) standard.names).isSome = true ↔
          Selector.ofText selector ∈ standard.max := by
      simp only [bundled, List.mem_cons, List.not_mem_nil, or_false] at isStandard
      rcases isStandard with rfl | rfl | rfl <;> exact Standard.isSome_get?_names_ofLayers _ _ _ _
    rw [isSome_describe]
    exact exists_congr fun standard => and_congr_right (names standard)

/-- A list with one function without parameters. -/
def oneFunction (name : Text) : Json :=
  .arr [.obj [("type", .str "function"), ("name", .str name)]]

/-- The tiers of two standards with one function each. The widest tier of the second is an
artifact. -/
def listAndArtifact : List TierAbis :=
  [⟨"t", oneFunction "f", oneFunction "f", oneFunction "f"⟩,
   ⟨"u", oneFunction "g", oneFunction "g", .obj [("abi", oneFunction "g")]⟩]

/-- Code that pushes the selectors of both functions: only the first is described by a text. -/
theorem describeLiterals_names_listAndArtifact :
    let code : Code := ⟨[0x63, 0x26, 0x12, 0x1f, 0xf0, 0x63, 0xe2, 0x17, 0x9b, 0x8e]⟩
    let isNamed (registry : Registry) (selector : Text) : Prop :=
      ∃ tier ∈ listAndArtifact, ∃ standard ∈ registry.standards,
        tier.standard = .ok standard ∧ (∃ entries, tier.max = .arr entries) ∧
        Selector.ofText selector ∈ standard.max
    let texts : List (Text × Option Text) := [("26121ff0", some "f()"), ("e2179b8e", none)]
    ∃ registry, IsBuiltFrom registry listAndArtifact ∧ registry.describeLiterals code = texts ∧
      isNamed registry "26121ff0" ∧ ¬ isNamed registry "e2179b8e" := by
  intro code isNamed texts
  have computed : (ofAbis listAndArtifact).toOption.map (·.describeLiterals code) = some texts := by
    decide +kernel
  obtain ⟨registry, isRegistry, described⟩ := Option.map_eq_some_iff.1 computed
  have isBuilt : IsBuiltFrom registry listAndArtifact := .abis (eq_ok_of_toOption isRegistry)
  obtain ⟨-, names, -⟩ := describeLiterals_names isBuilt code
  refine ⟨registry, isBuilt, described, (names _ (some "f()") ?_).1 rfl, fun isNamed => ?_⟩
  · rw [described]
    exact List.mem_cons_self
  · have isDescribed : (("e2179b8e" : Text), none) ∈ registry.describeLiterals code := by
      rw [described]
      exact List.mem_cons_of_mem _ List.mem_cons_self
    have named := (names _ _ isDescribed).2 isNamed
    cases named

/-- Three files of a standard with one function. The last is an artifact, as a compiler writes
it. -/
def artifactFile (file : Text) : Option Text :=
  let list : Text := "[\x7b\"type\": \"function\", \"name\": \"f\"\x7d]"
  Keyed.get? file
    [("T-min.json", list), ("T.json", list), ("T-max.json", "\x7b\"abi\": " ++ list ++ "\x7d")]

/-- The selector of the function is in the widest tier that the files give, and yet no text
describes it. -/
theorem describeLiterals_artifactFile :
    ∃ registry, ofFiles artifactFile ["t"] = .ok registry ∧
      (∃ standard ∈ registry.standards, Selector.ofText "26121ff0" ∈ standard.max) ∧
      registry.describeLiterals ⟨[0x63, 0x26, 0x12, 0x1f, 0xf0]⟩ =
        [(("26121ff0" : Text), none)] := by
  have computed : (ofFiles artifactFile ["t"]).toOption.map (fun registry =>
      (registry.standards.any fun standard => standard.max.contains "26121ff0",
        registry.describeLiterals ⟨[0x63, 0x26, 0x12, 0x1f, 0xf0]⟩)) =
      some (true, [(("26121ff0" : Text), none)]) := by decide +kernel
  obtain ⟨registry, isRegistry, found⟩ := Option.map_eq_some_iff.1 computed
  obtain ⟨isWidest, described⟩ := Prod.mk.inj found
  obtain ⟨standard, isStandard, holds⟩ := List.any_eq_true.1 isWidest
  exact ⟨registry, eq_ok_of_toOption isRegistry,
    ⟨standard, isStandard, SelectorSet.contains_iff.1 holds⟩, described⟩

end Registry

end TokenLens
