import TokenLens.Proofs.Chain.Turn

/-!
# What every walk keeps

`WalkPlan.Consistent` ties the state of a walk to the contracts it has expanded and to all that was
read so far. It holds at the start (`consistent_start`) and every followed link keeps it
(`Consistent.follows`), hence so does every advance. Since each turn expands another visited
contract, and the bound limits how many are visited, a walk has no more than `mostVisits` turns; so
the turns that a walk is given suffice to leave nothing pending (`takesPlace_walk`).
-/

namespace TokenLens

namespace Walk

variable {walk : Walk} {address : Text}

/-- An address was visited if it is that of a visited contract. -/
theorem hasVisited_iff :
    walk.hasVisited address = true ↔ address ∈ walk.visited.map (·.address) := by
  simp [hasVisited]

/-- One more link changes nothing about what was visited. -/
@[simp]
theorem hasVisited_addLink {link : Link} :
    (walk.addLink link).hasVisited address = walk.hasVisited address := rfl

/-- A visit adds one address. -/
@[simp]
theorem hasVisited_visit {visit : Visit} :
    (walk.visit visit).hasVisited address =
      (walk.hasVisited address || decide (visit.address = address)) := by
  simp [hasVisited, Walk.visit]

end Walk

/-- A visit whose code is what a reading says about its address. -/
structure Visit.FetchedBy (url : Text) (visit : Visit) (reading : Reading) : Prop where
  query : reading.query = ⟨url, .code visit.address⟩
  code : Lookup.codeIn reading.answer = .ok visit.code

/-- Every visited contract but the first is the target of one that was visited before it. -/
def DiscoveredBy (links : List Link) (visited : List Visit) : Prop :=
  ∀ before visit rest, visited = before ++ visit :: rest → before = [] ∨
    ∃ link ∈ links, link.target = visit.address ∧ link.source ∈ before.map (·.address)

/-- More links do not change what was discovered. -/
theorem DiscoveredBy.mono {links more : List Link} {visited : List Visit}
    (discovered : DiscoveredBy links visited) (included : links ⊆ more) :
    DiscoveredBy more visited := by
  intro before visit rest split
  refine (discovered before visit rest split).imp_right ?_
  rintro ⟨link, isLink, leads⟩
  exact ⟨link, included isLink, leads⟩

/-- One more contract is discovered by a link from a visited one. -/
theorem DiscoveredBy.snoc {links : List Link} {visited : List Visit} {visit : Visit} {link : Link}
    (discovered : DiscoveredBy links visited) (isLink : link ∈ links)
    (isTarget : link.target = visit.address)
    (isSource : link.source ∈ visited.map (·.address)) :
    DiscoveredBy links (visited ++ [visit]) := by
  intro before other rest split
  rcases List.eq_nil_or_concat' rest with rfl | ⟨others, last, rfl⟩
  · obtain ⟨rfl, isVisit⟩ := List.append_inj' split rfl
    obtain rfl := List.singleton_inj.1 isVisit
    exact .inr ⟨link, isLink, isTarget, isSource⟩
  · rw [← List.cons_append, ← List.append_assoc] at split
    exact discovered before other others (List.append_inj' split rfl).1

namespace WalkPlan

variable {plan : WalkPlan} {source target : Text} {start : Visit} {expanded : List Visit}
  {past readings : List Reading} {walk after : Walk}

/-- The state of a walk against the contract it started from, the contracts it has expanded and all
that was read. -/
structure Consistent (plan : WalkPlan) (start : Visit) (expanded : List Visit)
    (past : List Reading) (walk : Walk) : Prop where
  /-- The code of every visited contract but the first was fetched, in the order of the visits. -/
  fetched : ∃ later, walk.visited = start :: later ∧
    List.Forall₂ (Visit.FetchedBy plan.url) later (codeReadings past)
  distinct : (walk.visited.map (·.address)).Nodup
  /-- Every visited contract was expanded or is pending, and not both. -/
  accounted : (expanded ++ walk.pending).Perm walk.visited
  bounded : (walk.visited.length : Int) ≤ max 1 plan.bound
  discovered : DiscoveredBy walk.links walk.visited
  truncated_iff : walk.truncated = true ↔ ∃ link ∈ walk.links, walk.hasVisited link.target = false
  full : walk.truncated = true → plan.bound ≤ walk.visited.length

/-- A walk that has only started is consistent. -/
theorem consistent_start : plan.Consistent start [] [] (.start start) where
  fetched := ⟨[], rfl, .nil⟩
  distinct := List.nodup_singleton _
  accounted := .refl _
  bounded := le_max_left _ _
  discovered := by
    intro before visit rest split
    cases before with
    | nil => exact .inl rfl
    | cons first before => simp [Walk.start] at split
  truncated_iff := by simp [Walk.start]
  full := by simp [Walk.start]

namespace Consistent

/-- The walk visited the contract first that it started from. -/
theorem head?_visited (consistent : plan.Consistent start expanded past walk) :
    walk.visited.head? = some start := by
  obtain ⟨later, isVisited, -⟩ := consistent.fetched
  rw [isVisited, List.head?_cons]

/-- What was expanded was visited. -/
theorem mem_visited (consistent : plan.Consistent start expanded past walk) {visit : Visit}
    (isExpanded : visit ∈ expanded) : visit ∈ walk.visited :=
  consistent.accounted.subset (List.mem_append_left _ isExpanded)

/-- A walk that is not truncated visited the targets of all its links. -/
theorem hasVisited_target (consistent : plan.Consistent start expanded past walk)
    (whole : walk.truncated = false) {link : Link} (isLink : link ∈ walk.links) :
    walk.hasVisited link.target = true := by
  by_contra missed
  have truncated := consistent.truncated_iff.2 ⟨link, isLink, Bool.eq_false_iff.2 missed⟩
  rw [whole] at truncated
  cases truncated

/-- What was read besides code does not matter. -/
theorem reread (consistent : plan.Consistent start expanded past walk)
    (noCode : codeReadings readings = []) :
    plan.Consistent start expanded (past ++ readings) walk :=
  { consistent with fetched := by simpa [noCode] using consistent.fetched }

/-- A link that is recorded and not followed leaves a consistent walk, provided that the mark of
truncation is set where it must be. -/
theorem record (consistent : plan.Consistent start expanded past walk) (truncated : Bool)
    {link : Link}
    (marked : truncated = (walk.truncated || !walk.hasVisited link.target))
    (full : truncated = true → plan.bound ≤ walk.visited.length) :
    plan.Consistent start expanded past
      { walk.addLink link with truncated } where
  fetched := consistent.fetched
  distinct := consistent.distinct
  accounted := consistent.accounted
  bounded := consistent.bounded
  discovered := consistent.discovered.mono (List.subset_append_left _ _)
  truncated_iff := by
    have same := consistent.truncated_iff
    subst marked
    simp only [Walk.addLink, Bool.or_eq_true, same, Bool.not_eq_true', List.mem_append,
      List.mem_singleton]
    constructor
    · rintro (⟨found, isLink, missed⟩ | missed)
      · exact ⟨found, .inl isLink, missed⟩
      · exact ⟨link, .inr rfl, missed⟩
    · rintro ⟨found, isLink | rfl, missed⟩
      · exact .inl ⟨found, isLink, missed⟩
      · exact .inr missed
  full := full

/-- A contract that is new is visited through a link to it, as long as there is room. -/
theorem reach (consistent : plan.Consistent start expanded past walk)
    {answer : Except ReadFault Json} {code : Code}
    (isSource : source ∈ walk.visited.map (·.address))
    (new : walk.hasVisited target = false) (room : walk.visited.length < plan.bound)
    (spelled : Lookup.codeIn answer = .ok code) :
    plan.Consistent start expanded (past ++ [⟨⟨plan.url, .code target⟩, answer⟩])
      ((walk.addLink ⟨source, target⟩).visit ⟨target, code⟩) where
  fetched := by
    obtain ⟨later, isVisited, areFetched⟩ := consistent.fetched
    refine ⟨later ++ [⟨target, code⟩], by simp [Walk.visit, Walk.addLink, isVisited], ?_⟩
    rw [codeReadings_append]
    exact List.rel_append areFetched (.cons ⟨rfl, spelled⟩ .nil)
  distinct := by
    have missed : target ∉ walk.visited.map (·.address) := by
      rw [← Walk.hasVisited_iff, new]
      exact Bool.false_ne_true
    simp only [Walk.visit, Walk.addLink, List.map_append, List.map_cons, List.map_nil]
    exact consistent.distinct.append (List.nodup_singleton _) (List.disjoint_singleton.2 missed)
  accounted := by
    have swapped := consistent.accounted.append_right [⟨target, code⟩]
    refine .trans ?_ swapped
    simpa [Walk.visit, Walk.addLink] using
      List.Perm.append_left expanded (List.perm_append_singleton ⟨target, code⟩ _).symm
  bounded := by
    simp only [Walk.visit, Walk.addLink, List.length_append, List.length_singleton]
    omega
  discovered := by
    have isLink : (⟨source, target⟩ : Link) ∈ walk.links ++ [⟨source, target⟩] := by simp
    have kept := consistent.discovered.mono (List.subset_append_left _ [⟨source, target⟩])
    exact kept.snoc isLink rfl isSource
  truncated_iff := by
    -- With room left the walk is not truncated, so the new link is the only one in question.
    have whole : walk.truncated = false := by
      by_contra truncated
      have full := consistent.full (Bool.eq_true_of_not_eq_false truncated)
      omega
    change walk.truncated = true ↔ ∃ link ∈ walk.links ++ [⟨source, target⟩], _
    simp only [whole, Bool.false_eq_true, false_iff, not_exists, not_and, List.mem_append,
      List.mem_singleton, Walk.hasVisited_visit, Walk.hasVisited_addLink]
    rintro link (isLink | rfl)
    · simp [consistent.hasVisited_target whole isLink]
    · simp
  full := by
    intro truncated
    have full := consistent.full truncated
    omega

/-- Every followed link keeps a walk consistent. -/
theorem follows (consistent : plan.Consistent start expanded past walk)
    (isSource : source ∈ walk.visited.map (·.address))
    (followed : plan.Follows source target walk readings after) :
    plan.Consistent start expanded (past ++ readings) after := by
  cases followed with
  | known visited =>
      rw [List.append_nil]
      exact consistent.record walk.truncated (by simp [visited]) consistent.full
  | refused new full =>
      rw [List.append_nil]
      exact consistent.record true (by simp [new]) fun _ => full
  | reached new room spelled => exact consistent.reach isSource new room spelled

/-- Following the links of an expanded contract keeps a walk consistent. -/
theorem followsAll (consistent : plan.Consistent start expanded past walk) {visit : Visit}
    {targets : List Text} (isExpanded : visit ∈ expanded)
    (followed : plan.FollowsAll visit.address targets walk readings after) :
    plan.Consistent start expanded (past ++ readings) after := by
  induction followed generalizing past with
  | nil walk => rwa [List.append_nil]
  | cons first rest inductionHypothesis =>
      rw [← List.append_assoc]
      have isSource := List.mem_map_of_mem (f := (·.address)) (consistent.mem_visited isExpanded)
      exact inductionHypothesis (consistent.follows isSource first)

/-- A turn keeps a walk consistent, and one more contract is expanded. -/
theorem expands (consistent : plan.Consistent start expanded past walk) {turn : Turn}
    {rest : List Visit} (isNext : walk.pending = turn.visit :: rest)
    (expands : plan.Expands turn { walk with pending := rest } readings after) :
    plan.Consistent start (expanded ++ [turn.visit]) (past ++ readings) after := by
  obtain ⟨found, followed⟩ := expands
  have moved : plan.Consistent start (expanded ++ [turn.visit]) past
      { walk with pending := rest } :=
    { consistent with
      accounted := by simpa [isNext] using consistent.accounted }
  rw [← List.append_assoc]
  have isExpanded : turn.visit ∈ expanded ++ [turn.visit] := by simp
  exact (moved.reread (Proxy.noCode_targetsOfCode found)).followsAll isExpanded followed

/-- An advance keeps a walk consistent. -/
theorem advances (consistent : plan.Consistent start expanded past walk) {turns : List Turn}
    (advances : plan.Advances walk turns readings after) :
    plan.Consistent start (expanded ++ turns.map (·.visit)) (past ++ readings) after := by
  induction advances generalizing expanded past with
  | refl walk => simpa using consistent
  | turn isNext expands _ inductionHypothesis =>
      simpa using inductionHypothesis (consistent.expands isNext expands)

/-- No more contracts were expanded than a walk may visit. -/
theorem length_expanded_le (consistent : plan.Consistent start expanded past walk) :
    expanded.length + walk.pending.length ≤ plan.mostVisits := by
  have counted := consistent.accounted.length_eq
  have bounded := consistent.bounded
  rw [List.length_append] at counted
  unfold mostVisits
  omega

end Consistent

/-- What a walk from a contract advances to is consistent with its turns. -/
theorem Advances.consistent {turns : List Turn}
    (advances : plan.Advances (.start start) turns readings after) :
    plan.Consistent start (turns.map (·.visit)) readings after :=
  consistent_start.advances advances

/-- A walk has no more turns than contracts that it may visit. -/
theorem Advances.length_turns_le {turns : List Turn}
    (advances : plan.Advances (.start start) turns readings after) :
    turns.length + after.pending.length ≤ plan.mostVisits := by
  simpa using advances.consistent.length_expanded_le

/-! ## The links of a walk -/

/-- Following a link records it. -/
theorem Follows.links (followed : plan.Follows source target walk readings after) :
    after.links = walk.links ++ [⟨source, target⟩] := by
  cases followed with
  | known => rfl
  | refused => rfl
  | reached => rfl

/-- Following links records them in order. -/
theorem FollowsAll.links {targets : List Text}
    (followed : plan.FollowsAll source targets walk readings after) :
    after.links = walk.links ++ targets.map fun target => ⟨source, Text.lower target⟩ := by
  induction followed with
  | nil walk => simp
  | cons first rest inductionHypothesis => rw [inductionHypothesis, first.links]; simp

/-- An advance records the links of its turns and no others. -/
theorem Advances.links {turns : List Turn}
    (advances : plan.Advances walk turns readings after) :
    after.links = walk.links ++ turns.flatMap Turn.links := by
  induction advances with
  | refl walk => simp
  | turn isNext expands _ inductionHypothesis =>
      obtain ⟨-, followed⟩ := expands
      rw [inductionHypothesis, followed.links]
      simp [Turn.links]

/-! ## Whole walks -/

/-- A walk ends with nothing pending, unless it fails by what one of its readings is. -/
theorem takesPlace_walk {code : Code} {outcome : Except LookupError Walk}
    (conversation : (plan.walk code).TakesPlace readings outcome) :
    (∃ after turns, outcome = .ok after ∧
      plan.Advances (.start ⟨plan.root, code⟩) turns readings after ∧ after.pending = []) ∨
      ∃ error, outcome = .error error ∧ error.StemsFrom readings := by
  rcases takesPlace_continueFor conversation with ⟨after, turns, rfl, advances, ends⟩ | failed
  · refine .inl ⟨after, turns, rfl, advances, ?_⟩
    rcases ends with nothing | used
    · exact nothing
    · have limited := advances.length_turns_le
      exact List.eq_nil_of_length_eq_zero (by omega)
  · exact .inr failed

end WalkPlan

/-- A resolution is what a whole walk leads to. -/
theorem Chain.takesPlace_resolve {url address : Text} {code : Code} {bound : Int}
    {registry : Registry} {readings : List Reading} {outcome : Except LookupError Resolution}
    (conversation : (resolve url address code bound registry).TakesPlace readings outcome) :
    (∃ walk turns, outcome = .ok (walk.resolution (Text.lower address) registry) ∧
      WalkPlan.Advances ⟨Text.lower address, bound, url⟩ (.start ⟨Text.lower address, code⟩) turns
        readings walk ∧ walk.pending = []) ∨
      ∃ error, outcome = .error error ∧ error.StemsFrom readings := by
  rcases Lookup.takesPlace_bind_iff.1 conversation with
    ⟨error, rfl, failed⟩ | ⟨earlier, later, walk, rfl, walked, rest⟩
  · rcases WalkPlan.takesPlace_walk failed with ⟨_, _, isOk, -⟩ | ⟨_, isError, stems⟩
    · cases isOk
    · obtain rfl := Except.error.inj isError
      exact .inr ⟨error, rfl, stems⟩
  · obtain ⟨rfl, rfl⟩ := Lookup.takesPlace_pure_iff.1 rest
    rcases WalkPlan.takesPlace_walk walked with
      ⟨_, turns, isOk, advances, nothing⟩ | ⟨_, isError, -⟩
    · obtain rfl := Except.ok.inj isOk
      rw [List.append_nil]
      exact .inl ⟨walk, turns, rfl, advances, nothing⟩
    · cases isError

end TokenLens
