import Mathlib.Logic.Relation
import TokenLens.Proofs.Chain.Terrain

/-!
# Exact walks

A walk against a node that does not change its mind is an exact account of the terrain: its links
are the edges from the contracts it visited, each once, and unless it was truncated it visited just
the contracts that can be reached from the first. That holds for terrains with cycles and for
terrains without end, for nodes that fail, and whatever of the node's replies the caches hold.
-/

namespace TokenLens

/-- A resolution that is an exact account of a terrain. -/
structure Resolution.IsExactOn (resolution : Resolution) (terrain : Terrain) : Prop where
  startsAtRoot : resolution.visited.head? = some terrain.root
  distinct : resolution.visited.Nodup
  discovered : ∀ before address rest, resolution.visited = before ++ address :: rest →
    before = [] ∨ ∃ source ∈ before, ⟨source, address⟩ ∈ resolution.links
  mem_links_iff : ∀ source target, ⟨source, target⟩ ∈ resolution.links ↔
    source ∈ resolution.visited ∧ target ∈ terrain.targetsAt source
  linksDistinct : resolution.links.Nodup
  mem_visited_iff : resolution.truncated = false → ∀ address, address ∈ resolution.visited ↔
    Relation.ReflTransGen terrain.LeadsTo terrain.root address

namespace Terrain

variable {terrain : Terrain} {bound : Int} {readings : List Reading} {walk : Walk}
  {turns : List Turn}

section Walked

variable (advances : (terrain.plan bound).Advances (.start terrain.start) turns readings walk)
  (nothing : walk.pending = []) (explains : terrain.Explains readings)

include advances nothing

/-- The contracts that were expanded are those that were visited. -/
theorem expanded_perm_visited : (turns.map (·.visit)).Perm walk.visited := by
  have accounted := advances.consistent.accounted
  rwa [nothing, List.append_nil] at accounted

/-- No contract is expanded twice. -/
theorem nodup_expanded : (turns.map (·.visit.address)).Nodup := by
  have distinct := advances.consistent.distinct
  rw [← ((expanded_perm_visited advances nothing).map _).nodup_iff, List.map_map] at distinct
  exact distinct

include explains

/-- The links of a walk are the edges from the contracts that it visited. -/
theorem mem_links_iff {source target : Text} :
    ⟨source, target⟩ ∈ walk.links ↔
      source ∈ walk.visited.map (·.address) ∧ target ∈ terrain.targetsAt source := by
  have perm := expanded_perm_visited advances nothing
  have links : walk.links = turns.flatMap Turn.links := by simpa [Walk.start] using advances.links
  rw [links, List.mem_flatMap]
  constructor
  · rintro ⟨turn, isTurn, isLink⟩
    obtain ⟨found, isFound, same⟩ := List.mem_map.1 isLink
    obtain ⟨rfl, rfl⟩ := Link.mk.inj same
    have isVisited := perm.subset (List.mem_map_of_mem isTurn)
    refine ⟨List.mem_map_of_mem (f := (·.address)) isVisited, ?_⟩
    rw [← (targets_eq_targetsAt advances explains isTurn).1]
    exact List.mem_map_of_mem isFound
  · rintro ⟨isSource, isTarget⟩
    obtain ⟨visit, isVisited, rfl⟩ := List.mem_map.1 isSource
    obtain ⟨turn, isTurn, rfl⟩ := List.mem_map.1 (perm.symm.subset isVisited)
    rw [← (targets_eq_targetsAt advances explains isTurn).1] at isTarget
    obtain ⟨found, isFound, rfl⟩ := List.mem_map.1 isTarget
    exact ⟨turn, isTurn, List.mem_map_of_mem isFound⟩

/-- No link is recorded twice: links of one turn have different targets, and links of different
turns have different sources. -/
theorem nodup_links : walk.links.Nodup := by
  have links : walk.links = turns.flatMap Turn.links := by simpa [Walk.start] using advances.links
  have sources := nodup_expanded advances nothing
  rw [links, List.nodup_flatMap]
  constructor
  · intro turn isTurn
    have distinct := (targets_eq_targetsAt advances explains isTurn).2
    refine List.Nodup.of_map (f := (·.target)) ?_
    rwa [Turn.links, List.map_map]
  · refine (List.pairwise_map.1 sources).imp ?_
    intro turn other different link isLink isOther
    obtain ⟨_, -, rfl⟩ := List.mem_map.1 isLink
    obtain ⟨_, -, same⟩ := List.mem_map.1 isOther
    exact different (Link.mk.inj same).1.symm

/-- What was visited so far can be reached, however far that is. -/
theorem reachable_of_split (before rest : List Visit) (split : walk.visited = before ++ rest) :
    ∀ visit ∈ before, Relation.ReflTransGen terrain.LeadsTo terrain.root visit.address := by
  have consistent := advances.consistent
  -- The induction adds the contract visited last; it was discovered from one visited before.
  induction before using List.reverseRecOn generalizing rest with
  | nil => simp
  | append_singleton before last inductionHypothesis =>
      rw [List.append_assoc, List.singleton_append] at split
      have reached := inductionHypothesis (last :: rest) split
      intro visit isVisit
      rcases List.mem_append.1 isVisit with isBefore | isLast
      · exact reached visit isBefore
      · obtain rfl := List.mem_singleton.1 isLast
        rcases consistent.discovered before visit rest split with
          rfl | ⟨link, isLink, isTarget, isSource⟩
        · have isFirst := consistent.head?_visited
          rw [split] at isFirst
          obtain rfl := Option.some.inj isFirst
          exact .refl
        · obtain ⟨source, isBefore, isSource⟩ := List.mem_map.1 isSource
          have leads := ((mem_links_iff advances nothing explains).1 isLink).2
          rw [← isSource, isTarget] at leads
          exact (reached source isBefore).tail leads

/-- Whatever was visited can be reached. -/
theorem reachable_of_visited {address : Text} (isVisited : address ∈ walk.visited.map (·.address)) :
    Relation.ReflTransGen terrain.LeadsTo terrain.root address := by
  obtain ⟨visit, isVisit, rfl⟩ := List.mem_map.1 isVisited
  exact reachable_of_split advances nothing explains walk.visited [] (by simp) visit isVisit

/-- A walk that is not truncated visits whatever can be reached. -/
theorem visited_of_reachable (whole : walk.truncated = false) {address : Text}
    (reachable : Relation.ReflTransGen terrain.LeadsTo terrain.root address) :
    address ∈ walk.visited.map (·.address) := by
  have consistent := advances.consistent
  induction reachable with
  | refl =>
      have isFirst := List.mem_of_mem_head? consistent.head?_visited
      exact List.mem_map_of_mem (f := (·.address)) isFirst
  | tail _ leads inductionHypothesis =>
      have isLink := (mem_links_iff advances nothing explains).2 ⟨inductionHypothesis, leads⟩
      exact Walk.hasVisited_iff.1 (consistent.hasVisited_target whole isLink)

/-- A whole walk gives an exact account of the terrain. -/
theorem isExactOn_resolution (registry : Registry) :
    (walk.resolution terrain.root registry).IsExactOn terrain := by
  have consistent := advances.consistent
  constructor
  case startsAtRoot => simp [Walk.resolution, consistent.head?_visited, start]
  case distinct => exact consistent.distinct
  case discovered =>
    intro before address rest split
    obtain ⟨visitsBefore, others, visited, rfl, areOthers⟩ := List.map_eq_append_iff.1 split
    obtain ⟨visit, visitsAfter, rfl, rfl, -⟩ := List.map_eq_cons_iff.1 areOthers
    rcases consistent.discovered visitsBefore visit visitsAfter visited with
      rfl | ⟨link, isLink, isTarget, isSource⟩
    · exact .inl rfl
    · refine .inr ⟨link.source, isSource, ?_⟩
      rw [← isTarget]
      exact isLink
  case mem_links_iff =>
    intro source target
    exact mem_links_iff advances nothing explains
  case linksDistinct => exact nodup_links advances nothing explains
  case mem_visited_iff =>
    intro whole address
    exact ⟨reachable_of_visited advances nothing explains,
      visited_of_reachable advances nothing explains whole⟩

end Walked

end Terrain

/-- Outcomes of walks in a terrain. Either the resolution is exact, or the node nested a reply too
deeply to be read. -/
inductive Terrain.Explored (terrain : Terrain) : Except LookupError Resolution → Prop where
  | exactly {resolution : Resolution} (isExact : resolution.IsExactOn terrain) :
      Explored terrain (.ok resolution)
  | tooDeep {query : Query} (broken : terrain.answers query = .error (.broken .tooDeep)) :
      Explored terrain (.error (.broken .tooDeep))

/-- A walk against a proper node that does not change its mind is an exact account of the terrain,
whatever the caches hold of what the node would reply. -/
theorem Chain.resolve_isExact {node : Query → PostOutcome} (proper : IsProper fun _ => node)
    {caches : Caches} (reflects : caches.Reflects fun query => (node query).result)
    (url address : Text) (code : Code) (bound : Int) (registry : Registry) :
    Terrain.Explored ⟨node, url, Text.lower address, code⟩
      (Dialogue.run node (resolve url address code bound registry) caches).value := by
  obtain ⟨readings, explains, walked⟩ :=
    Terrain.walked_of_run reflects url address code bound registry
  rcases walked with ⟨walk, turns, isOutcome, advances, nothing⟩ | ⟨error, isOutcome, stems⟩
  · rw [isOutcome]
    exact .exactly (Terrain.isExactOn_resolution advances nothing explains registry)
  · rw [isOutcome]
    have areProper := proper.areProper fun reading isRead => ⟨[], explains reading isRead⟩
    obtain ⟨rfl, query, isRead⟩ := stems.eq_tooDeep areProper
    exact .tooDeep (explains _ isRead).symm

/-- A node that knows the code of one contract, which delegates to itself, and nothing else. -/
def knowsCode (query : Query) : PostOutcome :=
  if query.read.isCode then delegatingReply else .failed

/-- A walk from a contract that delegates to the one whose code the node knows. -/
theorem Chain.resolve_isExact_knowsCode :
    let code : Code := ⟨115 :: (List.replicate 20 1 ++ [244])⟩
    IsProper (fun _ => knowsCode) ∧
    Caches.empty.Reflects (fun query => (knowsCode query).result) ∧
    Terrain.Explored ⟨knowsCode, "http://node", Text.lower "0xA1", code⟩
      (Dialogue.run knowsCode (resolve "http://node" "0xA1" code 16 ⟨[]⟩) .empty).value := by
  intro code
  have proper : IsProper fun _ => knowsCode := isProper_of_delegating fun past query => by
    unfold knowsCode
    split
    · exact .inl rfl
    · exact .inr rfl
  exact ⟨proper, Caches.reflects_empty _,
    Chain.resolve_isExact proper (Caches.reflects_empty _) "http://node" "0xA1" code 16 ⟨[]⟩⟩

end TokenLens
