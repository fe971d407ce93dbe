import TokenLens.Proofs.Chain.Invariant

/-!
# Walks within their bound

Whatever a proper node replies, even if its replies depend on all that was read before, a walk takes
no more turns than its bound allows, expands every contract that it visits in one turn, and asks for
the code of each once. Its mark of truncation is honest: it is set exactly when some link leads to a
contract that was not visited, and then the walk has visited as many as it may. The statement also
covers bounds below one, under which only the first contract is visited.
-/

namespace TokenLens

namespace WalkPlan.Consistent

variable {plan : WalkPlan} {start : Visit} {expanded : List Visit} {past : List Reading}
  {walk : Walk}

/-- The code of the visited contracts was asked for in the order of the visits. -/
theorem queries_eq (consistent : plan.Consistent start expanded past walk) :
    (codeReadings past).map (·.query) =
      (walk.visited.map (·.address)).tail.map fun address => ⟨plan.url, .code address⟩ := by
  obtain ⟨later, isVisited, areFetched⟩ := consistent.fetched
  rw [isVisited, List.map_cons, List.tail_cons]
  clear isVisited
  generalize codeReadings past = fetches at areFetched
  induction areFetched with
  | nil => rfl
  | cons isFetched _ inductionHypothesis => simp [isFetched.query, inductionHypothesis]

/-- A truncated walk has visited as many contracts as it may. -/
theorem length_of_truncated (consistent : plan.Consistent start expanded past walk)
    (truncated : walk.truncated = true) : (walk.visited.length : Int) = max 1 plan.bound := by
  have full := consistent.full truncated
  have bounded := consistent.bounded
  have started := List.length_pos_of_mem (List.mem_of_mem_head? consistent.head?_visited)
  omega

end WalkPlan.Consistent

/-- A resolution that keeps to the bound of a plan and is honest about it, given the turns of its
walk and all that was read. -/
structure Resolution.KeepsTo (resolution : Resolution) (plan : WalkPlan) (turns : List Turn)
    (readings : List Reading) : Prop where
  startsAtRoot : resolution.visited.head? = some plan.root
  distinct : resolution.visited.Nodup
  limited : (resolution.visited.length : Int) ≤ max 1 plan.bound
  /-- Code was asked for once for every visited contract but the first, and for no other. -/
  fetchedOnce : (codeReadings readings).map (·.query) =
    resolution.visited.tail.map fun address => ⟨plan.url, .code address⟩
  /-- Every visited contract was expanded in one turn. -/
  expandedOnce : (turns.map (·.visit.address)).Perm resolution.visited
  truncated_iff : resolution.truncated = true ↔
    ∃ link ∈ resolution.links, link.target ∉ resolution.visited
  full : resolution.truncated = true → (resolution.visited.length : Int) = max 1 plan.bound

/-- A whole walk keeps to its bound. -/
theorem WalkPlan.Advances.keepsTo {plan : WalkPlan} {code : Code} {turns : List Turn}
    {readings : List Reading} {walk : Walk} (registry : Registry)
    (advances : plan.Advances (.start ⟨plan.root, code⟩) turns readings walk)
    (nothing : walk.pending = []) :
    (walk.resolution plan.root registry).KeepsTo plan turns readings := by
  have consistent := advances.consistent
  constructor
  case startsAtRoot => simp [Walk.resolution, consistent.head?_visited]
  case distinct => exact consistent.distinct
  case limited => simpa [Walk.resolution] using consistent.bounded
  case fetchedOnce => exact consistent.queries_eq
  case expandedOnce =>
    have accounted := consistent.accounted.map (·.address)
    rw [nothing, List.append_nil, List.map_map] at accounted
    exact accounted
  case truncated_iff =>
    have missed (link : Link) :
        walk.hasVisited link.target = false ↔ link.target ∉ walk.visited.map (·.address) := by
      rw [← Walk.hasVisited_iff, Bool.not_eq_true]
    have marked := consistent.truncated_iff
    simp only [missed] at marked
    exact marked
  case full => simpa [Walk.resolution] using consistent.length_of_truncated

/-- Outcomes of walks that keep to their bound. Either nothing is left to expand, or a reply was
nested too deeply to be read. -/
inductive WalkPlan.Settles (plan : WalkPlan) (code : Code) (registry : Registry)
    (readings : List Reading) : Except LookupError Resolution → Prop where
  | whole {walk : Walk} {turns : List Turn}
      (advances : plan.Advances (.start ⟨plan.root, code⟩) turns readings walk)
      (nothing : walk.pending = [])
      (keeps : (walk.resolution plan.root registry).KeepsTo plan turns readings) :
      Settles plan code registry readings (.ok (walk.resolution plan.root registry))
  | tooDeep (isRead : BrokenBy .tooDeep readings) :
      Settles plan code registry readings (.error (.broken .tooDeep))

/-- With proper readings a walk settles. -/
theorem Chain.settles_of_takesPlace {url address : Text} {code : Code} {bound : Int}
    {registry : Registry} {readings : List Reading} {outcome : Except LookupError Resolution}
    (conversation : (resolve url address code bound registry).TakesPlace readings outcome)
    (proper : AreProper readings) :
    WalkPlan.Settles ⟨Text.lower address, bound, url⟩ code registry readings outcome := by
  rcases Chain.takesPlace_resolve conversation with
    ⟨walk, turns, rfl, advances, nothing⟩ | ⟨error, rfl, stems⟩
  · exact .whole advances nothing (advances.keepsTo registry nothing)
  · obtain ⟨rfl, isRead⟩ := stems.eq_tooDeep proper
    exact .tooDeep isRead

/-- No walk takes more turns than its bound allows, and the walk against a proper node comes to an
end in which it has kept to its bound. -/
theorem Chain.resolve_settles {node : List Reading → Query → PostOutcome} (proper : IsProper node)
    (url address : Text) (code : Code) (bound : Int) (registry : Registry) :
    let plan : WalkPlan := ⟨Text.lower address, bound, url⟩
    let conversation := Dialogue.converse (fun past query => (node past query).result) []
      (resolve url address code bound registry)
    (∀ turns readings walk, plan.Advances (.start ⟨plan.root, code⟩) turns readings walk →
      (turns.length : Int) ≤ max 1 bound) ∧
    plan.Settles code registry conversation.1 conversation.2 := by
  intro plan conversation
  constructor
  · intro turns readings walk advances
    have limited := advances.length_turns_le
    simp only [WalkPlan.mostVisits, plan] at limited
    omega
  · have takesPlace : (resolve url address code bound registry).TakesPlace conversation.1
        conversation.2 := Dialogue.takesPlace_converse _ _ _
    have areProper : AreProper conversation.1 := proper.areProper fun _ => Dialogue.mem_converse
    rcases Chain.takesPlace_resolve takesPlace with
      ⟨walk, turns, isOutcome, advances, nothing⟩ | ⟨error, isOutcome, stems⟩
    · rw [isOutcome]
      exact .whole advances nothing (advances.keepsTo registry nothing)
    · rw [isOutcome]
      obtain ⟨rfl, isRead⟩ := stems.eq_tooDeep areProper
      exact .tooDeep isRead

/-- A node that replies twice and then fails. -/
def replyTwice (past : List Reading) (_ : Query) : PostOutcome :=
  if past.length < 2 then delegatingReply else .failed

/-- A walk with room for one contract against the node that replies twice. -/
theorem Chain.resolve_settles_replyTwice :
    let code : Code := ⟨115 :: (List.replicate 20 2 ++ [244])⟩
    let plan : WalkPlan := ⟨Text.lower "0xA1", 1, "http://node"⟩
    let conversation := Dialogue.converse (fun past query => (replyTwice past query).result) []
      (resolve "http://node" "0xA1" code 1 ⟨[]⟩)
    IsProper replyTwice ∧
    (∀ turns readings walk, plan.Advances (.start ⟨plan.root, code⟩) turns readings walk →
      (turns.length : Int) ≤ max 1 1) ∧
    plan.Settles code ⟨[]⟩ conversation.1 conversation.2 := by
  have proper : IsProper replyTwice := isProper_of_delegating fun past query => by
    unfold replyTwice
    split
    · exact .inl rfl
    · exact .inr rfl
  exact ⟨proper, Chain.resolve_settles proper "http://node" "0xA1" _ 1 ⟨[]⟩⟩

end TokenLens
