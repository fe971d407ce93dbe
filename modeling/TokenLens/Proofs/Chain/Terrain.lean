import TokenLens.Proofs.Chain.Invariant
import TokenLens.Proofs.Node.Caching

/-!
# Terrain

A node whose replies are a function of the query fixes a graph before anyone walks in it: what code
counts for an address, and what targets that code leads to. `Terrain` is that graph, defined without
walks, caches and bounds. A walk against the node finds nothing but what is in the terrain, whatever
its caches held of the node before.
-/

namespace TokenLens

/-- A node that does not change its mind, and the contract that a walk starts from with its code. -/
structure Terrain where
  node : Query → PostOutcome
  url : Text
  root : Text
  code : Code

namespace Terrain

variable (terrain : Terrain)

/-- What the node makes of a query. -/
def answers (query : Query) : Except ReadFault Json :=
  (terrain.node query).result

/-- The code that counts for an address: the code at hand for the first contract, the code that the
node states for any other, and none if the node states none. -/
def codeAt (address : Text) : Code :=
  if address = terrain.root then terrain.code
  else
    match Lookup.codeIn (terrain.answers ⟨terrain.url, .code address⟩) with
    | .ok code => code
    | .error _ => .empty

/-- The targets that the code of an address leads to, in small letters. -/
def targetsAt (address : Text) : List Text :=
  match (Proxy.targetsOfCode terrain.url address (terrain.codeAt address)).evaluate
    terrain.answers with
  | .ok targets => targets.map Text.lower
  | .error _ => []

/-- An address leads to those of its targets. -/
def LeadsTo (source target : Text) : Prop :=
  target ∈ terrain.targetsAt source

/-- The plan of a walk in the terrain. -/
def plan (bound : Int) : WalkPlan :=
  ⟨terrain.root, bound, terrain.url⟩

/-- Where a walk in the terrain starts. -/
def start : Visit :=
  ⟨terrain.root, terrain.code⟩

/-- Readings in which the node of the terrain replied. -/
def Explains (readings : List Reading) : Prop :=
  ∀ reading ∈ readings, reading.answer = terrain.answers reading.query

end Terrain

variable {terrain : Terrain} {bound : Int} {readings : List Reading} {walk after : Walk}
  {turns : List Turn}

/-- Each of several visits that were fetched in order was fetched by one of the readings. -/
theorem Visit.exists_fetchedBy {url : Text} {visits : List Visit}
    (areFetched : List.Forall₂ (Visit.FetchedBy url) visits readings) {visit : Visit}
    (isVisit : visit ∈ visits) : ∃ reading ∈ readings, visit.FetchedBy url reading := by
  induction areFetched with
  | nil => cases isVisit
  | cons isFetched _ inductionHypothesis =>
      rcases List.mem_cons.1 isVisit with rfl | isLater
      · exact ⟨_, List.mem_cons_self, isFetched⟩
      · obtain ⟨reading, isReading, isFetchedLater⟩ := inductionHypothesis isLater
        exact ⟨reading, List.mem_cons_of_mem _ isReading, isFetchedLater⟩

/-- The targets that were found in each turn were found among the readings. -/
theorem WalkPlan.Advances.found {plan : WalkPlan}
    (advances : plan.Advances walk turns readings after) {turn : Turn} (isTurn : turn ∈ turns) :
    ∃ earlier ⊆ readings,
      (Proxy.targetsOfCode plan.url turn.visit.address turn.visit.code).TakesPlace earlier
        (.ok turn.targets) := by
  induction advances with
  | refl walk => cases isTurn
  | turn isNext expands _ inductionHypothesis =>
      obtain ⟨found, -⟩ := expands
      rcases List.mem_cons.1 isTurn with rfl | isLater
      · refine ⟨_, ?_, found⟩
        rw [List.append_assoc]
        exact List.subset_append_left _ _
      · obtain ⟨earlier, included, found⟩ := inductionHypothesis isLater
        exact ⟨earlier, List.Subset.trans included (List.subset_append_right _ _), found⟩

namespace Terrain

/-- The code of a visited contract is the code that counts for its address. -/
theorem code_eq_codeAt {expanded : List Visit}
    (consistent : (terrain.plan bound).Consistent terrain.start expanded readings walk)
    (explains : terrain.Explains readings) {visit : Visit} (isVisited : visit ∈ walk.visited) :
    visit.code = terrain.codeAt visit.address := by
  obtain ⟨later, visited, areFetched⟩ := consistent.fetched
  have distinct := consistent.distinct
  rw [visited, List.map_cons, List.nodup_cons] at distinct
  rw [visited] at isVisited
  rcases List.mem_cons.1 isVisited with rfl | isLater
  · simp [codeAt, start]
  · have isOther : visit.address ≠ terrain.root := by
      rintro isRoot
      exact distinct.1 (List.mem_map.2 ⟨visit, isLater, isRoot⟩)
    obtain ⟨reading, isReading, isFetched⟩ := Visit.exists_fetchedBy areFetched isLater
    have isAnswer := explains reading (List.mem_of_mem_filter isReading)
    rw [isFetched.query] at isAnswer
    have spelled := isFetched.code
    rw [isAnswer] at spelled
    simp only [codeAt, if_neg isOther, plan] at spelled ⊢
    rw [spelled]

/-- The targets found in a turn are those of its contract in the terrain, and they are distinct. -/
theorem targets_eq_targetsAt
    (advances : (terrain.plan bound).Advances (.start terrain.start) turns readings walk)
    (explains : terrain.Explains readings) {turn : Turn} (isTurn : turn ∈ turns) :
    turn.targets.map Text.lower = terrain.targetsAt turn.visit.address ∧
      (turn.targets.map Text.lower).Nodup := by
  have consistent := advances.consistent
  have isVisited := consistent.mem_visited (List.mem_map_of_mem isTurn)
  obtain ⟨earlier, included, found⟩ := advances.found isTurn
  have isValue := found.eq_evaluate fun reading isRead => explains reading (included isRead)
  rw [code_eq_codeAt consistent explains isVisited] at isValue
  obtain ⟨distinct, areSmall⟩ := Proxy.nodup_targetsOfCode found
  have unchanged : turn.targets.map Text.lower = turn.targets := by
    rw [List.map_congr_left areSmall, List.map_id']
  have isFound : Dialogue.evaluate terrain.answers (Proxy.targetsOfCode terrain.url
      turn.visit.address (terrain.codeAt turn.visit.address)) = .ok turn.targets := isValue.symm
  refine ⟨?_, by rwa [unchanged]⟩
  rw [targetsAt, isFound]

/-- A walk against the node of a terrain is a whole walk in the terrain, or fails by what the node
replied to one of its queries. -/
theorem walked_of_run {node : Query → PostOutcome} {caches : Caches}
    (reflects : caches.Reflects fun query => (node query).result) (url address : Text) (code : Code)
    (bound : Int) (registry : Registry) :
    let terrain : Terrain := ⟨node, url, Text.lower address, code⟩
    let outcome := (Dialogue.run node (Chain.resolve url address code bound registry) caches).value
    ∃ readings, terrain.Explains readings ∧
      ((∃ walk turns, outcome = .ok (walk.resolution terrain.root registry) ∧
        (terrain.plan bound).Advances (.start terrain.start) turns readings walk ∧
        walk.pending = []) ∨
      ∃ error, outcome = .error error ∧ error.StemsFrom readings) := by
  obtain ⟨readings, conversation, explains⟩ :=
    Dialogue.takesPlace_run node (Chain.resolve url address code bound registry) reflects
  exact ⟨readings, explains, Chain.takesPlace_resolve conversation⟩

end Terrain

end TokenLens
