import TokenLens.Proofs.Abi.Entries
import TokenLens.Proofs.Standard.Acceptance
import TokenLens.Proofs.Verdict.Gate
import TokenLens.Standard.Bundled

/-!
# Standards that are not mistaken for each other

The surfaces of standards overlap. A registry is unambiguous all the same if the least tier of each
standard holds a selector that the widest tier of any other leaves out
(`Registry.IsUnambiguous`). What has the least tier of one standard, and from the least tiers of the
others only what the widest tier of that standard has too, is then let through by one gate, so
points have no say in the choice. The bundled registry is unambiguous.
-/

namespace TokenLens

namespace Standard

variable {present : Text → Bool} {standard other : Standard}

/-- The widest tier of a standard leaves out a selector of the least tier of another. -/
def LeavesOut (standard other : Standard) : Prop :=
  ∃ selector ∈ other.min, selector ∉ standard.max

/-- The tiers of a standard that is given in layers nest. -/
theorem nests_ofLayers (name : Text) {core : List Declaration} (someCore : core ≠ [])
    (canonical extensions : List Declaration) :
    (ofLayers name core canonical extensions).Nests where
  someSelector := by
    obtain ⟨declaration, isCore⟩ := List.exists_mem_of_ne_nil core someCore
    exact ⟨declaration.selector, SelectorSet.mem_ofList.2 (List.mem_map_of_mem isCore)⟩
  minInFull selector isMin := by
    have isListed := SelectorSet.mem_ofList.1 isMin
    refine SelectorSet.mem_ofList.2 ?_
    rw [List.map_append]
    exact List.mem_append_left _ isListed
  fullInMax selector isFull := by
    have isListed := SelectorSet.mem_ofList.1 isFull
    refine SelectorSet.mem_ofList.2 ?_
    rw [List.map_append]
    exact List.mem_append_left _ isListed

/-- The least tier of a standard that is given in layers has the selector of everything in its
core. -/
theorem selector_mem_min {name : Text} {core canonical extensions : List Declaration}
    {declaration : Declaration} (isCore : declaration ∈ core) :
    declaration.selector ∈ (ofLayers name core canonical extensions).min :=
  SelectorSet.mem_ofList.2 (List.mem_map_of_mem isCore)

end Standard

namespace Registry

variable {present : Text → Bool} {registry : Registry} {standard other : Standard}

/-- Any two standards of a registry leave each other out. -/
def IsUnambiguous (registry : Registry) : Prop :=
  registry.standards.Pairwise fun earlier later =>
    earlier.LeavesOut later ∧ later.LeavesOut earlier

/-- What is present has the least tier of a standard, and nothing else from any least tier but what
the widest tier of that standard has. -/
structure PointsTo (present : Text → Bool) (registry : Registry) (standard : Standard) : Prop where
  passes : standard.PassesGate present
  others : ∀ selector, present selector = true → selector ∉ standard.min →
    selector ∈ standard.max ∨ ∀ other ∈ registry.standards, selector ∉ other.min

/-- What points to a standard does not pass the gate of another that it leaves out. -/
theorem PointsTo.not_passesGate (points : registry.PointsTo present standard)
    (nests : standard.Nests) (isOther : other ∈ registry.standards)
    (leavesOut : standard.LeavesOut other) : ¬ other.PassesGate present := by
  intro passes
  obtain ⟨selector, isMin, absent⟩ := leavesOut
  have notMin : selector ∉ standard.min := fun isOwn =>
    absent (nests.fullInMax _ (nests.minInFull _ isOwn))
  rcases points.others selector (passes selector isMin) notMin with isMax | foreign
  · exact absent isMax
  · exact foreign other isOther isMin

/-- In an unambiguous registry, the standard that is pointed to is chosen. -/
theorem PointsTo.bestByPoints (points : registry.PointsTo present standard)
    (unambiguous : registry.IsUnambiguous) (nests : standard.Nests)
    (isStandard : standard ∈ registry.standards) :
    registry.bestByPoints present = some standard.label := by
  obtain ⟨before, after, split⟩ := List.append_of_mem isStandard
  rw [IsUnambiguous, split, List.pairwise_append, List.pairwise_cons] at unambiguous
  obtain ⟨-, ⟨apartFromLater, -⟩, apartFromEarlier⟩ := unambiguous
  have earlierFails : ∀ other ∈ before, ¬ other.PassesGate present := fun other isBefore =>
    points.not_passesGate nests (by simp [split, isBefore])
      (apartFromEarlier other isBefore standard List.mem_cons_self).2
  have laterFails : ∀ other ∈ after, ¬ other.PassesGate present := fun other isAfter =>
    points.not_passesGate nests (by simp [split, isAfter]) (apartFromLater other isAfter).1
  refine isWinner_iff.1 (isWinner_some_iff.2
    ⟨standard, ⟨before, after, split, points.passes, ?_, ?_⟩, rfl⟩)
  · intro other isOther passes
    rw [split, List.mem_append, List.mem_cons] at isOther
    rcases isOther with isBefore | rfl | isAfter
    · exact absurd passes (earlierFails other isBefore)
    · exact le_rfl
    · exact absurd passes (laterFails other isAfter)
  · exact fun other isBefore passes => absurd passes (earlierFails other isBefore)

/-- The tiers of the bundled standards nest. -/
theorem nests_bundled (isStandard : standard ∈ bundled.standards) : standard.Nests := by
  simp only [bundled, List.mem_cons, List.not_mem_nil, or_false] at isStandard
  rcases isStandard with rfl | rfl | rfl
  · exact Standard.nests_ofLayers _ (List.cons_ne_nil _ _) _ _
  · exact Standard.nests_ofLayers _ (List.cons_ne_nil _ _) _ _
  · exact Standard.nests_ofLayers _ (List.cons_ne_nil _ _) _ _

/-- The function to transfer an amount, which sets the first bundled standard apart. -/
def transferMark : Declaration := .function "transfer" ["address", "uint256"]

/-- The function for the owner of a token, which sets the second bundled standard apart. -/
def ownerMark : Declaration := .function "ownerOf" ["uint256"]

/-- The function for a batch of balances, which sets the third bundled standard apart. -/
def batchMark : Declaration := .function "balanceOfBatch" ["address[]", "uint256[]"]

/-- The least tier of each bundled standard has the function that sets it apart. -/
theorem marks_mem_min : transferMark.selector ∈ Standard.erc20.min ∧
    ownerMark.selector ∈ Standard.erc721.min ∧ batchMark.selector ∈ Standard.erc1155.min := by
  refine ⟨Standard.selector_mem_min ?_, Standard.selector_mem_min ?_,
    Standard.selector_mem_min ?_⟩
  · simp [transferMark]
  · simp [ownerMark]
  · simp [batchMark]

/-- The bundled registry is unambiguous: no widest tier has the function that sets another standard
apart. -/
theorem isUnambiguous_bundled : bundled.IsUnambiguous := by
  have absent : (ownerMark.selector ∉ Standard.erc20.max ∧
        batchMark.selector ∉ Standard.erc20.max) ∧
      (transferMark.selector ∉ Standard.erc721.max ∧
        batchMark.selector ∉ Standard.erc721.max) ∧
      transferMark.selector ∉ Standard.erc1155.max ∧
        ownerMark.selector ∉ Standard.erc1155.max := by
    decide +kernel
  obtain ⟨⟨noOwner, noBatch⟩, ⟨noTransfer, noBatchEither⟩, noTransferEither, noOwnerEither⟩ :=
    absent
  obtain ⟨hasTransfer, hasOwner, hasBatch⟩ := marks_mem_min
  simp only [IsUnambiguous, bundled, List.pairwise_cons, List.mem_cons, List.not_mem_nil, or_false,
    forall_eq_or_imp, forall_eq, false_implies, implies_true, List.Pairwise.nil, and_true]
  exact ⟨⟨⟨⟨_, hasOwner, noOwner⟩, ⟨_, hasTransfer, noTransfer⟩⟩,
      ⟨_, hasBatch, noBatch⟩, ⟨_, hasTransfer, noTransferEither⟩⟩,
    ⟨_, hasBatch, noBatchEither⟩, ⟨_, hasOwner, noOwnerEither⟩⟩

/-- Where all that sets the bundled standards apart is absent, none of them is chosen. -/
theorem bundled_chooses_none (noTransfer : present transferMark.selector = false)
    (noOwner : present ownerMark.selector = false) (noBatch : present batchMark.selector = false) :
    bundled.bestByPoints present = none := by
  obtain ⟨hasTransfer, hasOwner, hasBatch⟩ := marks_mem_min
  refine isWinner_iff.1 (isWinner_none_iff.2 fun standard isStandard => ?_)
  simp only [bundled, List.mem_cons, List.not_mem_nil, or_false] at isStandard
  rcases isStandard with rfl | rfl | rfl
  · exact ⟨_, hasTransfer, noTransfer⟩
  · exact ⟨_, hasOwner, noOwner⟩
  · exact ⟨_, hasBatch, noBatch⟩

/-- The bundled standards are told apart by any ABI whose selectors hold the least tier of one of
them, and besides only selectors of its widest tier and of no least tier: points choose this
standard, whatever the order of the entries, and whatever else the ABI lists. -/
theorem bundled_tells_apart :
    bundled.standards.map Standard.label = ["ERC20", "ERC721", "ERC1155"] ∧
    ∀ standard ∈ bundled.standards, ∀ (abi : Json) (selectors : SelectorSet) (threshold : Number),
      Abi.selectors abi = .ok selectors →
      (∀ selector ∈ standard.min, selector ∈ selectors) →
      (∀ selector ∈ selectors, selector ∉ standard.min →
        selector ∈ standard.max ∨ ∀ other ∈ bundled.standards, selector ∉ other.min) →
      classifyAbi abi .bundled .minMax threshold = .ok (some standard.label) := by
  refine ⟨by decide +kernel, ?_⟩
  intro standard isStandard abi selectors threshold accepted holdsMin others
  have points : bundled.PointsTo selectors.contains standard := {
    passes := fun selector isMin => SelectorSet.contains_iff.2 (holdsMin selector isMin)
    others := fun selector isPresent => others selector (SelectorSet.contains_iff.1 isPresent) }
  have chosen := points.bestByPoints isUnambiguous_bundled (nests_bundled isStandard) isStandard
  rw [classifyAbi, accepted]
  exact congrArg Except.ok chosen

/-- An entry that declares something with parameters of elementary types. -/
def simpleEntry (kind : DeclarationKind) (name : Text) (types : List Text) : Json :=
  .obj [("type", .str kind.word), ("name", .str name),
    ("inputs", .arr (types.map fun type => .obj [("type", .str type)]))]

/-- The ABI of a token: a constructor, a function that no standard knows, one that only the widest
tier of the first standard knows, and then the least tier of that standard. An event of that tier
is listed twice. -/
def mintedToken : Json :=
  .arr
    [.obj [("type", .str "constructor")],
     simpleEntry .function "frobnicate" [],
     simpleEntry .function "mint" ["address", "uint256"],
     simpleEntry .event "Approval" ["address", "address", "uint256"],
     simpleEntry .function "totalSupply" [],
     simpleEntry .function "balanceOf" ["address"],
     simpleEntry .function "transfer" ["address", "uint256"],
     simpleEntry .function "allowance" ["address", "address"],
     simpleEntry .function "approve" ["address", "uint256"],
     simpleEntry .function "transferFrom" ["address", "address", "uint256"],
     simpleEntry .event "Transfer" ["address", "address", "uint256"],
     simpleEntry .event "Approval" ["address", "address", "uint256"]]

/-- This token is taken for the first standard. -/
theorem bundled_tells_apart_mintedToken :
    ∃ selectors, Abi.selectors mintedToken = .ok selectors ∧
      (∀ selector ∈ Standard.erc20.min, selector ∈ selectors) ∧
      (∀ selector ∈ selectors, selector ∉ Standard.erc20.min →
        selector ∈ Standard.erc20.max ∨ ∀ other ∈ bundled.standards, selector ∉ other.min) ∧
      classifyAbi mintedToken .bundled .minMax .hundred = .ok (some Standard.erc20.label) := by
  let unknown := Declaration.function "frobnicate" []
  let mint := Declaration.function "mint" ["address", "uint256"]
  let approval := Declaration.event "Approval" ["address", "address", "uint256"]
  have declares : ∃ core, Standard.erc20.min = Abi.selectorsOf core ∧
      Abi.declarations mintedToken = .ok ([unknown, mint, approval] ++ core) := by
    refine ⟨_, rfl, ?_⟩
    with_unfolding_all rfl
  obtain ⟨core, isMin, declared⟩ := declares
  have mem_min_iff {selector : Text} :
      selector ∈ Standard.erc20.min ↔ selector ∈ core.map Declaration.selector := by
    rw [isMin]
    exact SelectorSet.mem_ofList
  let selectors := Abi.selectorsOf ([unknown, mint, approval] ++ core)
  have accepted : Abi.selectors mintedToken = .ok selectors := by
    rw [Abi.selectors, declared]
    rfl
  have holdsMin : ∀ selector ∈ Standard.erc20.min, selector ∈ selectors := by
    intro selector isMin
    refine SelectorSet.mem_ofList.2 ?_
    rw [List.map_append]
    exact List.mem_append_right _ (mem_min_iff.1 isMin)
  have others : ∀ selector ∈ selectors, selector ∉ Standard.erc20.min →
      selector ∈ Standard.erc20.max ∨ ∀ other ∈ bundled.standards, selector ∉ other.min := by
    intro selector isSelector notMin
    have isListed := SelectorSet.mem_ofList.1 isSelector
    rw [List.map_append, List.mem_append, ← mem_min_iff] at isListed
    rcases isListed with isExtra | isMin
    · simp only [List.map_cons, List.map_nil, List.mem_cons, List.not_mem_nil,
        or_false] at isExtra
      rcases isExtra with rfl | rfl | rfl
      · have foreign : ∀ other ∈ bundled.standards, unknown.selector ∉ other.min := by
          decide +kernel
        exact .inr foreign
      · refine .inl (SelectorSet.mem_ofList.2 (List.mem_map_of_mem ?_))
        simp [mint]
      · refine absurd (SelectorSet.mem_ofList.2 (List.mem_map_of_mem ?_)) notMin
        simp [approval]
    · exact absurd isMin notMin
  have isStandard : Standard.erc20 ∈ bundled.standards := List.mem_cons_self
  exact ⟨selectors, accepted, holdsMin, others,
    bundled_tells_apart.2 _ isStandard _ _ .hundred accepted holdsMin others⟩

end Registry

end TokenLens
