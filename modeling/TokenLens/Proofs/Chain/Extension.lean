import TokenLens.Proofs.Chain.Exactness
import TokenLens.Proofs.Chain.Stopping
import TokenLens.Proofs.Chain.Union
import TokenLens.Proofs.Node.Evaluation
import TokenLens.Proofs.Proxy.Gather
import TokenLens.Proofs.Verdict.Evidence

/-!
# Walks under a larger bound

In a terrain a larger bound only extends a walk: what was visited is visited first, the links out of
it are the same, a walk that came to its end within the smaller bound is unchanged, and a standard
is not lost. The exception is a walk that goes on into a part of the terrain where a reply cannot be
read, for that ends the whole walk.
-/

namespace TokenLens

/-- A whole walk in a terrain is the outcome of every run against its node. -/
theorem Terrain.run_of_advances {terrain : Terrain} {bound : Int} {readings : List Reading}
    {walk : Walk} {turns : List Turn} {caches : Caches}
    (reflects : caches.Reflects terrain.answers) {address : Text}
    (isRoot : Text.lower address = terrain.root) (registry : Registry)
    (advances : (terrain.plan bound).Advances (.start terrain.start) turns readings walk)
    (nothing : walk.pending = []) (explains : terrain.Explains readings) :
    (Dialogue.run terrain.node (Chain.resolve terrain.url address terrain.code bound registry)
      caches).value = .ok (walk.resolution terrain.root registry) := by
  have walked : ((terrain.plan bound).walk terrain.code).TakesPlace readings (.ok walk) :=
    WalkPlan.Advances.takesPlace_walk advances nothing
  have conversation : (Chain.resolve terrain.url address terrain.code bound registry).TakesPlace
      readings (.ok (walk.resolution terrain.root registry)) := by
    unfold Chain.resolve
    rw [isRoot]
    refine Lookup.takesPlace_bind_iff.2 (.inr ⟨readings, [], walk, by simp, walked, ?_⟩)
    exact Lookup.takesPlace_pure_iff.2 ⟨rfl, rfl⟩
  rw [Dialogue.value_run _ reflects]
  exact (Dialogue.TakesPlace.eq_evaluate conversation explains).symm

/-- What the joined code of a walk mentions is mentioned by that of a walk that visited more behind
it. -/
theorem Walk.mentions_of_isPrefix {walk other : Walk} (isPrefix : walk.visited <+: other.visited)
    {selector : Text} (mentioned : Text.mentions walk.joinedCode.text selector = true) :
    Text.mentions other.joinedCode.text selector = true := by
  have textIsPrefix : walk.joinedCode.text <+: other.joinedCode.text := by
    obtain ⟨more, split⟩ := isPrefix
    rw [text_joinedCode, text_joinedCode, ← split, List.map_append, List.flatten_append]
    exact List.prefix_append _ _
  exact Text.occursIn_iff_isInfix.2
    ((Text.occursIn_iff_isInfix.1 mentioned).trans textIsPrefix.isInfix)

namespace Terrain

variable {terrain : Terrain} {bound larger : Int} {readings : List Reading} {walk other : Walk}
  {turns : List Turn}

/-- The links out of a visited contract are those to its targets, in their order. -/
theorem filter_links
    (advances : (terrain.plan bound).Advances (.start terrain.start) turns readings walk)
    (nothing : walk.pending = []) (explains : terrain.Explains readings) {source : Text}
    (isVisited : source ∈ walk.visited.map (·.address)) :
    walk.links.filter (·.source = source) = (terrain.targetsAt source).map (Link.mk source) := by
  have perm := expanded_perm_visited advances nothing
  have links : walk.links = turns.flatMap Turn.links := by simpa [Walk.start] using advances.links
  have sources := nodup_expanded advances nothing
  obtain ⟨visit, isVisit, rfl⟩ := List.mem_map.1 isVisited
  obtain ⟨turn, isTurn, rfl⟩ := List.mem_map.1 (perm.symm.subset isVisit)
  have ofTurn : turn.links =
      (terrain.targetsAt turn.visit.address).map (.mk turn.visit.address) := by
    rw [← (targets_eq_targetsAt advances explains isTurn).1, List.map_map]
    rfl
  have noneElsewhere {others : List Turn}
      (different : ∀ other ∈ others, other.visit.address ≠ turn.visit.address) :
      (others.flatMap Turn.links).filter (·.source = turn.visit.address) = [] := by
    refine List.filter_eq_nil_iff.2 fun link isLink => ?_
    obtain ⟨other, isOther, isLink⟩ := List.mem_flatMap.1 isLink
    obtain ⟨_, -, rfl⟩ := List.mem_map.1 isLink
    simpa using different other isOther
  obtain ⟨before, after, split⟩ := List.append_of_mem isTurn
  rw [split, List.map_append, List.map_cons, List.nodup_middle, List.nodup_cons] at sources
  have different : ∀ other ∈ before ++ after, other.visit.address ≠ turn.visit.address := by
    intro other isOther same
    refine sources.1 ?_
    rw [← List.map_append, ← same]
    exact List.mem_map_of_mem (f := (·.visit.address)) isOther
  rw [links, split, List.flatMap_append, List.flatMap_cons, List.filter_append, List.filter_append,
    noneElsewhere fun other isOther => different other (List.mem_append_left _ isOther),
    noneElsewhere fun other isOther => different other (List.mem_append_right _ isOther),
    List.nil_append, List.append_nil, ← ofTurn]
  refine List.filter_eq_self.2 fun link isLink => ?_
  obtain ⟨_, -, rfl⟩ := List.mem_map.1 isLink
  simp

end Terrain

/-- A resolution under a larger bound that only extends another. -/
structure Resolution.ExtendedBy (earlier later : Resolution) : Prop where
  visited : earlier.visited <+: later.visited
  links : ∀ source ∈ earlier.visited,
    later.links.filter (·.source = source) = earlier.links.filter (·.source = source)
  whole : earlier.truncated = false → later = earlier
  standard : ∀ label, earlier.standard = some label → ∃ other, later.standard = some other

/-- A whole walk is extended by one that visited more behind it. -/
theorem Terrain.extendedBy_resolution {terrain : Terrain} {bound larger : Int}
    {readings further : List Reading} {walk other : Walk} {turns moreTurns : List Turn}
    (advances : (terrain.plan bound).Advances (.start terrain.start) turns readings walk)
    (nothing : walk.pending = []) (explains : terrain.Explains readings)
    (advancesToo : (terrain.plan larger).Advances (.start terrain.start) moreTurns further other)
    (nothingToo : other.pending = []) (explainsToo : terrain.Explains further)
    (compared : walk = other ∨ walk.truncated = true ∧ walk.visited <+: other.visited)
    (registry : Registry) : (walk.resolution terrain.root registry).ExtendedBy
      (other.resolution terrain.root registry) := by
  have isPrefix : walk.visited <+: other.visited := by
    rcases compared with rfl | ⟨-, isPrefix⟩
    · exact List.prefix_rfl
    · exact isPrefix
  constructor
  case visited => exact isPrefix.map _
  case links =>
    intro source isVisited
    have isVisitedToo := (isPrefix.map (·.address)).subset isVisited
    exact (filter_links advancesToo nothingToo explainsToo isVisitedToo).trans
      (filter_links advances nothing explains isVisited).symm
  case whole =>
    intro isWhole
    rcases compared with rfl | ⟨truncated, -⟩
    · rfl
    · cases isWhole.symm.trans truncated
  case standard =>
    intro label chosen
    exact Registry.exists_bestByPoints_of_more
      (fun selector => Walk.mentions_of_isPrefix isPrefix) chosen

/-- Outcomes of two walks of which the second has the larger bound. The second extends the first; or
it met a reply that was nested too deeply, which the first had no need to ask for, or met as
well. -/
inductive Terrain.Extended (terrain : Terrain) :
    Except LookupError Resolution → Except LookupError Resolution → Prop where
  | extended {earlier later : Resolution} (grows : earlier.ExtendedBy later) :
      Extended terrain (.ok earlier) (.ok later)
  | beyond {earlier : Resolution} {query : Query} (truncated : earlier.truncated = true)
      (broken : terrain.answers query = .error (.broken .tooDeep)) :
      Extended terrain (.ok earlier) (.error (.broken .tooDeep))
  | tooDeep {query : Query} (broken : terrain.answers query = .error (.broken .tooDeep)) :
      Extended terrain (.error (.broken .tooDeep)) (.error (.broken .tooDeep))

/-- A node that states the same two bytes as the code of every contract, and answers all else with
lists that are nested too deeply to be read. -/
def deepBehindCode (query : Query) : PostOutcome :=
  if query.read.isCode then .answered 200 "\x7b\"result\":\"0x6000\"\x7d" else deepReply

/-- What that node makes of a query. -/
theorem result_deepBehindCode (query : Query) : (deepBehindCode query).result =
    if query.read.isCode then .ok (.str "0x6000") else .error (.broken .tooDeep) := by
  unfold deepBehindCode
  split
  · exact eq_of_resultText? (by decide +kernel)
  · exact result_deepReply

/-- That node is proper. -/
theorem isProper_deepBehindCode : IsProper fun _ => deepBehindCode where
  errorMembers := by
    intro past query broken
    rw [result_deepBehindCode] at broken
    split at broken
    · cases broken
    · cases broken
  spelled := by
    intro past query document isCode stated
    rw [result_deepBehindCode, if_pos isCode] at stated
    obtain rfl := Except.ok.inj stated
    exact ⟨⟨[0x60, 0x00]⟩, rfl⟩

/-- The code of a contract that delegates to a fixed address and holds the selector of a
transfer. -/
def codeWithTransfer : Code :=
  ⟨115 :: (List.replicate 20 1 ++ [244, 99, 169, 5, 156, 187])⟩

/-- What a walk with room for one contract makes of that contract. -/
def truncatedResolution : Resolution :=
  ⟨"0x00000000000000000000000000000000000000a1", some "TOKEN",
    [⟨"0x00000000000000000000000000000000000000a1", "0x0101010101010101010101010101010101010101"⟩],
    ["0x00000000000000000000000000000000000000a1"], true⟩

/-- The walks from that contract, by their bound. -/
def runWithTransfer (bound : Int) : Except LookupError Resolution :=
  (Dialogue.run deepBehindCode (Chain.resolve "http://node"
    "0x00000000000000000000000000000000000000a1" codeWithTransfer bound transferOnly) .empty).value

/-- The walk with room for one contract finds a standard. -/
theorem runWithTransfer_one : runWithTransfer 1 = .ok truncatedResolution := by
  refine eq_ok_of_toOption ?_
  decide +kernel

/-- The walk with room for two contracts meets a reply that is nested too deeply. -/
theorem runWithTransfer_two : runWithTransfer 2 = .error (.broken .tooDeep) := by
  rw [runWithTransfer, Lookup.value_run (Caches.reflects_empty _)]
  simp only [result_deepBehindCode]
  refine Lookup.eq_of_breakdown? ?_
  decide +kernel

end TokenLens
