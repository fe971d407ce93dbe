import TokenLens.Proofs.Chain.Terrain
import TokenLens.Proofs.Evm.Spelling
import TokenLens.Proofs.Outcome
import TokenLens.Proofs.Text.Occurrence
import TokenLens.Proofs.Verdict.Winner

/-!
# What a walk takes for present

A walk judges the joined code of all contracts that it visited. So a selector counts as present if
the code of one of them holds it, and also if it begins in the code of some and goes on in the code
of those that were discovered next: joining makes texts that none of the contracts carries. Nothing
else counts (`Terrain.mentions_joinedCode_iff`), and the label that the walk leads to wins under
just this test. There are walks in which a text across a boundary decides.
-/

namespace TokenLens

/-- The text of joined code is the joined text. -/
theorem Walk.text_joinedCode (walk : Walk) :
    walk.joinedCode.text = (walk.visited.map (·.code.text)).flatten := by
  unfold joinedCode
  induction walk.visited with
  | nil => rfl
  | cons visit rest inductionHypothesis =>
      rw [List.map_cons, List.flatten_cons, ← inductionHypothesis]
      exact Code.text_append visit.code ⟨rest.flatMap (·.code.bytes)⟩

namespace Terrain

variable (terrain : Terrain)

/-- The texts of the code of several contracts, in order. -/
def textsAt (addresses : List Text) : List Text :=
  addresses.map fun address => (terrain.codeAt address).text

/-- What the joined code of several contracts mentions: what one of them mentions, and what
straddles a boundary between them. -/
def Mentions (addresses : List Text) (selector : Text) : Prop :=
  (∃ text ∈ terrain.textsAt addresses, selector <:+: text) ∨
    Text.Straddles selector (terrain.textsAt addresses)

/-- The joined code of a walk mentions what the terrain says about the contracts that it visited. -/
theorem mentions_joinedCode_iff {terrain : Terrain} {bound : Int} {readings : List Reading}
    {walk : Walk} {turns : List Turn}
    (advances : (terrain.plan bound).Advances (.start terrain.start) turns readings walk)
    (explains : terrain.Explains readings) {selector : Text} :
    Text.mentions walk.joinedCode.text selector = true ↔
      terrain.Mentions (walk.visited.map (·.address)) selector := by
  have consistent := advances.consistent
  have texts : walk.visited.map (·.code.text) = terrain.textsAt (walk.visited.map (·.address)) := by
    rw [textsAt, List.map_map]
    refine List.map_congr_left fun visit isVisited => ?_
    rw [code_eq_codeAt consistent explains isVisited]
    rfl
  obtain ⟨later, visited, -⟩ := consistent.fetched
  have someText : terrain.textsAt (walk.visited.map (·.address)) ≠ [] := by
    simp [textsAt, visited]
  rw [Text.mentions, Text.occursIn_iff_isInfix, Walk.text_joinedCode, texts,
    Text.isInfix_flatten_iff someText]
  rfl

end Terrain

/-- The standard of a resolution is the label that wins by points when just those selectors count as
present that the code of one visited contract holds or that straddle a boundary between the codes,
in the order in which the contracts were discovered. -/
theorem Chain.isWinner_resolve_iff {node : Query → PostOutcome} {caches : Caches}
    (reflects : caches.Reflects fun query => (node query).result) {url address : Text} {code : Code}
    {bound : Int} {registry : Registry} {resolution : Resolution}
    (resolved : (Dialogue.run node (resolve url address code bound registry) caches).value =
      .ok resolution) :
    let terrain : Terrain := ⟨node, url, Text.lower address, code⟩
    ∃ present : Text → Bool,
      (∀ selector, present selector = true ↔ terrain.Mentions resolution.visited selector) ∧
      ∀ label, registry.IsWinner present label ↔ resolution.standard = label := by
  intro terrain
  obtain ⟨readings, explains, walked⟩ :=
    Terrain.walked_of_run reflects url address code bound registry
  rw [resolved] at walked
  rcases walked with ⟨walk, turns, isOutcome, advances, -⟩ | ⟨error, isOutcome, -⟩
  · obtain rfl := Except.ok.inj isOutcome
    refine ⟨Text.mentions walk.joinedCode.text, fun selector => ?_, fun label => ?_⟩
    · exact Terrain.mentions_joinedCode_iff advances explains
    · exact Registry.isWinner_iff
  · cases isOutcome

/-! ## A text that no contract carries -/

/-- A node that states the same two bytes as the code of every contract, and fails otherwise. -/
def tellsTail (query : Query) : PostOutcome :=
  if query.read.isCode then .answered 200 "\x7b\"result\":\"0x9cbb\"\x7d" else .failed

/-- The code of a contract that delegates to a fixed address and ends in the two bytes that come
before those in the selector of a transfer. -/
def codeWithHead : Code :=
  ⟨115 :: (List.replicate 20 1 ++ [244, 169, 5])⟩

/-- A registry whose one standard asks for transfers. -/
def transferOnly : Registry :=
  let tier := SelectorSet.ofList ["a9059cbb"]
  ⟨[⟨"token", tier, tier, tier, []⟩]⟩

/-- What a walk makes of the contract and the one that it delegates to. -/
def straddlingResolution : Resolution :=
  ⟨"0x00000000000000000000000000000000000000a1", some "TOKEN",
    [⟨"0x00000000000000000000000000000000000000a1", "0x0101010101010101010101010101010101010101"⟩],
    ["0x00000000000000000000000000000000000000a1", "0x0101010101010101010101010101010101010101"],
    false⟩

/-- The walk from the one contract to the other. -/
theorem run_straddling :
    (Dialogue.run tellsTail (Chain.resolve "http://node"
      "0x00000000000000000000000000000000000000a1" codeWithHead 16 transferOnly) .empty).value =
      .ok straddlingResolution := by
  refine eq_ok_of_toOption ?_
  decide +kernel

/-- The winner of that walk is the one under the test that counts straddling texts. -/
theorem Chain.isWinner_resolve_straddling :
    let terrain : Terrain := ⟨tellsTail, "http://node",
      Text.lower "0x00000000000000000000000000000000000000a1", codeWithHead⟩
    Caches.empty.Reflects (fun query => (tellsTail query).result) ∧
    (Dialogue.run tellsTail (resolve "http://node"
      "0x00000000000000000000000000000000000000a1" codeWithHead 16 transferOnly) .empty).value =
      .ok straddlingResolution ∧
    ∃ present : Text → Bool,
      (∀ selector, present selector = true ↔
        terrain.Mentions straddlingResolution.visited selector) ∧
      ∀ label, transferOnly.IsWinner present label ↔ straddlingResolution.standard = label := by
  exact ⟨Caches.reflects_empty _, run_straddling,
    Chain.isWinner_resolve_iff (Caches.reflects_empty _) run_straddling⟩

/-- The winner of that walk is not the one under the test that asks what one visited contract
mentions: no visited contract holds the selector, yet the standard is found. -/
theorem Chain.resolve_finds_straddling :
    let terrain : Terrain := ⟨tellsTail, "http://node",
      Text.lower "0x00000000000000000000000000000000000000a1", codeWithHead⟩
    let someMentions : Text → Bool := fun selector =>
      straddlingResolution.visited.any fun address =>
        Text.mentions (terrain.codeAt address).text selector
    (Dialogue.run tellsTail (resolve "http://node"
      "0x00000000000000000000000000000000000000a1" codeWithHead 16 transferOnly) .empty).value =
      .ok straddlingResolution ∧
    ¬ ∀ label, transferOnly.IsWinner someMentions label ↔
      straddlingResolution.standard = label := by
  intro terrain someMentions
  refine ⟨run_straddling, fun agree => ?_⟩
  have nobody : transferOnly.bestByPoints someMentions = none := by decide +kernel
  cases (agree none).1 (Registry.isWinner_iff.2 nobody)

end TokenLens
