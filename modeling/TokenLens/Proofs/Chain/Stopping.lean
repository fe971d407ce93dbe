import TokenLens.Proofs.Chain.Terrain

/-!
# Walks that stop short

Two walks of one plan that differ in their bounds go the same way until the smaller bound is
reached. From there on the one walk only drains what it still has to expand, while the other goes on
to visit further contracts, and so they expand different contracts next. Still, whatever the drained
contracts lead to was found in the longer walk as well, since that expands all that it visits; so
the shorter walk comes to its end, and what it visited is the beginning of what the longer one
visited (`WalkPlan.Advances.exists_below`).
-/

namespace TokenLens

namespace WalkPlan

variable {plan larger : WalkPlan} {source target : Text} {targets : List Text}
  {walk middle after : Walk} {readings : List Reading} {turn : Turn} {turns : List Turn}

/-! ## Advances take place -/

/-- A link that is followed is followed by the loop. -/
theorem Follows.takesPlace (followed : plan.Follows source target walk readings after) :
    (plan.follow source walk target).TakesPlace readings (.ok after) := by
  unfold follow
  extract_lets linked
  cases followed with
  | known visited =>
      rw [if_pos (show linked.hasVisited target = true from visited)]
      exact Lookup.takesPlace_pure_iff.2 ⟨rfl, rfl⟩
  | refused new full =>
      rw [if_neg (show ¬ linked.hasVisited target = true by simpa [linked] using new),
        if_pos (show plan.bound ≤ linked.visited.length from full)]
      exact Lookup.takesPlace_takeNote_pure_iff.2 ⟨rfl, rfl⟩
  | @reached answer code new room spelled =>
      rw [if_neg (show ¬ linked.hasVisited target = true by simpa [linked] using new),
        if_neg (show ¬ plan.bound ≤ linked.visited.length from not_le.2 room)]
      refine Lookup.takesPlace_bind_iff.2 (.inr ⟨[_], [], code, rfl, ?_, ?_⟩)
      · exact takesPlace_fetch_iff.2 ⟨answer, rfl, spelled.symm⟩
      · exact Lookup.takesPlace_takeNote_pure_iff.2 ⟨rfl, rfl⟩

/-- Links that are followed are followed by the loop. -/
theorem FollowsAll.takesPlace (followed : plan.FollowsAll source targets walk readings after) :
    (plan.followAll source targets walk).TakesPlace readings (.ok after) := by
  induction followed with
  | nil walk => exact Lookup.takesPlace_pure_iff.2 ⟨rfl, rfl⟩
  | cons first _ inductionHypothesis =>
      exact Lookup.takesPlace_bind_iff.2
        (.inr ⟨_, _, _, rfl, first.takesPlace, inductionHypothesis⟩)

/-- A turn is taken by the loop. -/
theorem Expands.takesPlace (expands : plan.Expands turn walk readings after) :
    (plan.expand turn.visit walk).TakesPlace readings (.ok after) := by
  obtain ⟨found, followed⟩ := expands
  exact Lookup.takesPlace_bind_iff.2 (.inr ⟨_, _, _, rfl, found, followed.takesPlace⟩)

/-- An advance that leaves nothing pending is what the loop does with enough turns. -/
theorem Advances.takesPlace (advances : plan.Advances walk turns readings after)
    (nothing : after.pending = []) {turnsToGo : Nat} (enough : turns.length ≤ turnsToGo) :
    (plan.continueFor turnsToGo walk).TakesPlace readings (.ok after) := by
  induction advances generalizing turnsToGo with
  | refl walk =>
      cases turnsToGo with
      | zero => exact Lookup.takesPlace_pure_iff.2 ⟨rfl, rfl⟩
      | succ turnsToGo =>
          simp only [continueFor, nothing]
          exact Lookup.takesPlace_pure_iff.2 ⟨rfl, rfl⟩
  | turn isNext expands _ inductionHypothesis =>
      obtain ⟨turnsToGo, rfl⟩ := Nat.exists_eq_add_one_of_ne_zero
        (Nat.ne_of_gt (Nat.lt_of_lt_of_le (Nat.succ_pos _) enough))
      simp only [continueFor, isNext]
      exact Lookup.takesPlace_bind_iff.2 (.inr ⟨_, _, _, rfl, expands.takesPlace,
        inductionHypothesis nothing (Nat.le_of_succ_le_succ enough)⟩)

/-- A whole advance is a walk. -/
theorem Advances.takesPlace_walk {code : Code}
    (advances : plan.Advances (.start ⟨plan.root, code⟩) turns readings after)
    (nothing : after.pending = []) : (plan.walk code).TakesPlace readings (.ok after) := by
  refine advances.takesPlace nothing ?_
  have limited := advances.length_turns_le
  omega

/-! ## What an advance leaves in place -/

/-- How a walk goes on from another: further contracts are visited behind those that were, and stand
in front of those that are pending; and a mark of truncation stays. -/
structure GoesOn (walk after : Walk) : Prop where
  visited : walk.visited <+: after.visited
  pending : walk.pending <:+ after.pending
  truncated : walk.truncated = true → after.truncated = true

/-- Following a link a walk goes on. -/
theorem Follows.goesOn (followed : plan.Follows source target walk readings after) :
    GoesOn walk after := by
  cases followed with
  | known => exact ⟨List.prefix_rfl, List.suffix_rfl, id⟩
  | refused => exact ⟨List.prefix_rfl, List.suffix_rfl, fun _ => rfl⟩
  | reached => exact ⟨List.prefix_append _ _, List.suffix_cons _ _, id⟩

/-- Following links a walk goes on. -/
theorem FollowsAll.goesOn (followed : plan.FollowsAll source targets walk readings after) :
    GoesOn walk after := by
  induction followed with
  | nil walk => exact ⟨List.prefix_rfl, List.suffix_rfl, id⟩
  | cons first _ inductionHypothesis =>
      have here := first.goesOn
      exact ⟨here.visited.trans inductionHypothesis.visited,
        here.pending.trans inductionHypothesis.pending,
        fun truncated => inductionHypothesis.truncated (here.truncated truncated)⟩

/-- An advance keeps what was visited and a mark of truncation. -/
theorem Advances.visited_isPrefix (advances : plan.Advances walk turns readings after) :
    walk.visited <+: after.visited ∧ (walk.truncated = true → after.truncated = true) := by
  induction advances with
  | refl walk => exact ⟨List.prefix_rfl, id⟩
  | turn _ expands _ inductionHypothesis =>
      obtain ⟨-, followed⟩ := expands
      have here := followed.goesOn
      exact ⟨here.visited.trans inductionHypothesis.1,
        fun truncated => inductionHypothesis.2 (here.truncated truncated)⟩

/-- An advance that leaves nothing pending expanded all that was. -/
theorem Advances.exists_turn (advances : plan.Advances walk turns readings after)
    (nothing : after.pending = []) {visit : Visit} (isPending : visit ∈ walk.pending) :
    ∃ turn ∈ turns, turn.visit = visit := by
  induction advances with
  | refl walk =>
      rw [nothing] at isPending
      cases isPending
  | turn isNext expands _ inductionHypothesis =>
      rw [isNext] at isPending
      rcases List.mem_cons.1 isPending with rfl | isLater
      · exact ⟨_, List.mem_cons_self, rfl⟩
      · obtain ⟨-, followed⟩ := expands
        have stays := followed.goesOn.pending.subset isLater
        obtain ⟨turn, isTurn, isVisit⟩ := inductionHypothesis nothing stays
        exact ⟨turn, List.mem_cons_of_mem _ isTurn, isVisit⟩

/-! ## The same way under a larger bound -/

/-- Plans that differ in nothing but that the bound of one is at least that of the other. -/
structure IsBelow (plan larger : WalkPlan) : Prop where
  url : plan.url = larger.url
  bound : plan.bound ≤ larger.bound

section Below

variable (isBelow : plan.IsBelow larger)
include isBelow

/-- A link that is not refused is followed in the same way under a larger bound. -/
theorem Follows.above (followed : plan.Follows source target walk readings after)
    (whole : after.truncated = false) : larger.Follows source target walk readings after := by
  cases followed with
  | known visited => exact .known visited
  | refused => cases whole
  | reached new room spelled =>
      rw [isBelow.url]
      exact .reached new (room.trans_le isBelow.bound) spelled

/-- Links of which none is refused are followed in the same way under a larger bound. -/
theorem FollowsAll.above (followed : plan.FollowsAll source targets walk readings after)
    (whole : after.truncated = false) : larger.FollowsAll source targets walk readings after := by
  induction followed with
  | nil walk => exact .nil walk
  | cons first rest inductionHypothesis =>
      have wholeBefore := Bool.eq_false_iff.2
        (mt rest.goesOn.truncated (Bool.eq_false_iff.1 whole))
      exact .cons (first.above isBelow wholeBefore) (inductionHypothesis whole)

/-- A walk that is not truncated goes the same way under a larger bound. -/
theorem Advances.above (advances : plan.Advances walk turns readings after)
    (whole : after.truncated = false) : larger.Advances walk turns readings after := by
  induction advances with
  | refl walk => exact .refl walk
  | turn isNext expands rest inductionHypothesis =>
      obtain ⟨found, followed⟩ := expands
      have wholeBefore := Bool.eq_false_iff.2
        (mt rest.visited_isPrefix.2 (Bool.eq_false_iff.1 whole))
      rw [isBelow.url] at found
      exact .turn isNext (.mk found (followed.above isBelow wholeBefore))
        (inductionHypothesis whole)

end Below

/-! ## Draining -/

/-- Where the bound is reached, links are followed without a query, and nothing is visited. -/
theorem exists_followsAll_of_full (source : Text) (targets : List Text)
    (full : plan.bound ≤ walk.visited.length) :
    ∃ after, plan.FollowsAll source targets walk [] after ∧ after.visited = walk.visited ∧
      after.pending = walk.pending ∧ (walk.truncated = true → after.truncated = true) := by
  induction targets generalizing walk with
  | nil => exact ⟨walk, .nil walk, rfl, rfl, id⟩
  | cons target rest inductionHypothesis =>
      by_cases visited : walk.hasVisited (Text.lower target) = true
      · obtain ⟨after, followed, same, samePending, truncated⟩ :=
          @inductionHypothesis (walk.addLink ⟨source, Text.lower target⟩) full
        exact ⟨after, .cons (.known visited) followed, same, samePending, truncated⟩
      · obtain ⟨after, followed, same, samePending, truncated⟩ := @inductionHypothesis
          { walk.addLink ⟨source, Text.lower target⟩ with truncated := true } full
        exact ⟨after, .cons (.refused (Bool.eq_false_iff.2 visited) full) followed, same,
          samePending, fun _ => truncated rfl⟩

/-- Where the bound is reached, a walk comes to its end without a further visit if targets are found
for all that is pending. -/
theorem exists_advances_of_full (full : plan.bound ≤ walk.visited.length)
    (expandable : ∀ visit ∈ walk.pending, ∃ earlier ⊆ readings, ∃ targets,
      (Proxy.targetsOfCode plan.url visit.address visit.code).TakesPlace earlier (.ok targets)) :
    ∃ turns, ∃ earlier ⊆ readings, ∃ after, plan.Advances walk turns earlier after ∧
      after.pending = [] ∧ after.visited = walk.visited ∧
      (walk.truncated = true → after.truncated = true) := by
  generalize isPending : walk.pending = pending at expandable
  induction pending generalizing walk with
  | nil => exact ⟨[], [], List.nil_subset _, walk, .refl walk, isPending, rfl, id⟩
  | cons next rest inductionHypothesis =>
      obtain ⟨⟨found, isFound, targets, conversation⟩, others⟩ := List.forall_mem_cons.1 expandable
      obtain ⟨middle, followed, sameVisited, samePending, stays⟩ := @exists_followsAll_of_full plan
        { walk with pending := rest } next.address targets full
      have fullMiddle : plan.bound ≤ middle.visited.length := by rwa [sameVisited]
      obtain ⟨turns, earlier, isEarlier, after, advances, nothing, visited, truncated⟩ :=
        inductionHypothesis fullMiddle samePending others
      refine ⟨⟨next, targets⟩ :: turns, (found ++ []) ++ earlier, ?_, after,
        .turn isPending (.mk conversation followed) advances, nothing, visited.trans sameVisited,
        fun isTruncated => truncated (stays isTruncated)⟩
      rw [List.append_nil]
      exact List.append_subset.2 ⟨isFound, isEarlier⟩

/-! ## Another way under a smaller bound -/

/-- A walk that has reached its bound where another went on to visit more. -/
structure StopsShort (plan : WalkPlan) (walk other : Walk) : Prop where
  full : plan.bound ≤ walk.visited.length
  truncated : walk.truncated = true
  visited : walk.visited <+: other.visited
  pending : walk.pending <:+ other.pending

section Below

variable (isBelow : plan.IsBelow larger)
include isBelow

/-- Links that are followed under a larger bound are followed in the same way, or the walk stops
short of that. -/
theorem FollowsAll.same_or_stopsShort
    (followed : larger.FollowsAll source targets walk readings after) :
    plan.FollowsAll source targets walk readings after ∨
      ∃ earlier ⊆ readings, ∃ middle, plan.FollowsAll source targets walk earlier middle ∧
        plan.StopsShort middle after := by
  induction followed with
  | nil walk => exact .inl (.nil walk)
  | @cons target targets walk middle after earlier later first rest inductionHypothesis =>
      -- As long as the first link is followed in the same way, the others decide.
      have sameWay (here : plan.Follows source (Text.lower target) walk earlier middle) :
          plan.FollowsAll source (target :: targets) walk (earlier ++ later) after ∨
            ∃ readings ⊆ earlier ++ later, ∃ stopped,
              plan.FollowsAll source (target :: targets) walk readings stopped ∧
                plan.StopsShort stopped after := by
        rcases inductionHypothesis with others | ⟨readings, areRead, stopped, others, short⟩
        · exact .inl (.cons here others)
        · exact .inr ⟨earlier ++ readings,
            List.append_subset.2 ⟨List.subset_append_left _ _,
              List.subset_append_of_subset_right _ areRead⟩, stopped, .cons here others, short⟩
      cases first with
      | known visited => exact sameWay (.known visited)
      | refused new full => exact sameWay (.refused new (isBelow.bound.trans full))
      | @reached answer code new room spelled =>
          by_cases roomBelow : (walk.visited.length : Int) < plan.bound
          · rw [← isBelow.url] at sameWay ⊢
            exact sameWay (.reached new roomBelow spelled)
          · have full : plan.bound ≤ walk.visited.length := not_lt.1 roomBelow
            obtain ⟨stopped, others, sameVisited, samePending, truncated⟩ :=
              @exists_followsAll_of_full plan { walk.addLink ⟨source, Text.lower target⟩ with
                truncated := true } source targets full
            have goesOn := rest.goesOn
            refine .inr ⟨[] ++ [], List.nil_subset _, stopped, .cons (.refused new full) others, ?_⟩
            constructor
            case full => rwa [sameVisited]
            case truncated => exact truncated rfl
            case visited =>
              rw [sameVisited]
              exact (List.prefix_append _ _).trans goesOn.visited
            case pending =>
              rw [samePending]
              exact (List.suffix_cons _ _).trans goesOn.pending

/-- A whole walk under a larger bound has a whole walk beside it under the smaller bound: the same,
or one that is truncated and visited what the longer one visited first. -/
theorem Advances.exists_below (advances : larger.Advances walk turns readings after)
    (nothing : after.pending = []) :
    ∃ turnsBelow, ∃ earlier ⊆ readings, ∃ stopped,
      plan.Advances walk turnsBelow earlier stopped ∧ stopped.pending = [] ∧
        (stopped = after ∨ stopped.truncated = true ∧ stopped.visited <+: after.visited) := by
  induction advances with
  | refl walk => exact ⟨[], [], List.nil_subset _, walk, .refl walk, nothing, .inl rfl⟩
  | @turn walk middle after turn turns rest earlier later isNext expands advances
      inductionHypothesis =>
      obtain @⟨found, followedReadings, _, isFound, followed⟩ := expands
      rw [← isBelow.url] at isFound
      rcases followed.same_or_stopsShort isBelow with
        same | ⟨fewer, areRead, stopped, others, short⟩
      · obtain ⟨turnsBelow, readings, areRead, stopped, onwards, nothingLeft, compared⟩ :=
          inductionHypothesis nothing
        exact ⟨turn :: turnsBelow, (found ++ followedReadings) ++ readings,
          List.append_subset.2 ⟨List.subset_append_left _ _,
            List.subset_append_of_subset_right _ areRead⟩, stopped,
          .turn isNext (.mk isFound same) onwards, nothingLeft, compared⟩
      · -- What is still to be drained was expanded in the longer walk.
        have expandable : ∀ visit ∈ stopped.pending, ∃ earlier ⊆ later, ∃ targets,
            (Proxy.targetsOfCode plan.url visit.address visit.code).TakesPlace earlier
              (.ok targets) := by
          intro visit isPending
          obtain ⟨turn, isTurn, rfl⟩ :=
            advances.exists_turn nothing (short.pending.subset isPending)
          obtain ⟨earlier, included, found⟩ := advances.found isTurn
          rw [← isBelow.url] at found
          exact ⟨earlier, included, _, found⟩
        obtain ⟨turnsBelow, readings, included, after, drained, nothingLeft, visited, truncated⟩ :=
          exists_advances_of_full short.full expandable
        refine ⟨turn :: turnsBelow, (found ++ fewer) ++ readings, ?_, after,
          .turn isNext (.mk isFound others) drained, nothingLeft,
          .inr ⟨truncated short.truncated, ?_⟩⟩
        · refine List.append_subset.2 ⟨List.subset_append_of_subset_left _ ?_, ?_⟩
          · exact List.append_subset.2 ⟨List.subset_append_left _ _,
              List.subset_append_of_subset_right _ areRead⟩
          · exact List.subset_append_of_subset_right _ included
        · rw [visited]
          exact short.visited.trans advances.visited_isPrefix.1

end Below

end WalkPlan

end TokenLens
