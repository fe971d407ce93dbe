import TokenLens.Chain.Walk
import TokenLens.Proofs.Node.Proper
import TokenLens.Proofs.Proxy.Target

/-!
# Turns of a walk

What the loop of a walk can do, said once. A link is passed over, refused or followed
(`WalkPlan.Follows`); a turn finds the targets of one pending contract and follows them all
(`WalkPlan.Expands`); and a walk advances by turns (`WalkPlan.Advances`) for as long as something is
pending. The relations put no limit on the number of turns. Every conversation of a walk is an
advance, or ends in an error that one of its readings is the cause of (`takesPlace_continueFor`).
-/

namespace TokenLens

/-- The code that an answer spells, none being spelled by a failure that callers expect. -/
def Lookup.codeIn : Except ReadFault Json → Except LookupError Code
  | .ok document => (Code.ofJson document).mapError .code
  | .error (.rpc _) => .ok .empty
  | .error (.broken cause) => .error (.broken cause)

/-- A failure that one of the readings is the cause of: a breakdown, or a document that spells no
code in answer to a query for code. -/
inductive LookupError.StemsFrom (readings : List Reading) : LookupError → Prop where
  | broken {cause : Breakdown} (isRead : BrokenBy cause readings) :
      StemsFrom readings (.broken cause)
  | code {url address : Text} {document : Json} {fault : CodeError}
      (isRead : (⟨⟨url, .code address⟩, .ok document⟩ : Reading) ∈ readings)
      (misspelled : Code.ofJson document = .error fault) : StemsFrom readings (.code fault)

/-- The cause of a failure in one part of a conversation is in the whole. -/
theorem LookupError.StemsFrom.mono {error : LookupError} {readings more : List Reading}
    (stems : error.StemsFrom readings) (included : readings ⊆ more) : error.StemsFrom more := by
  cases stems with
  | broken isRead => exact .broken (isRead.mono included)
  | code isRead misspelled => exact .code (included isRead) misspelled

/-- With proper readings the one failure is a reply that is nested too deeply. -/
theorem LookupError.StemsFrom.eq_tooDeep {error : LookupError} {readings : List Reading}
    (stems : error.StemsFrom readings) (proper : AreProper readings) :
    error = .broken .tooDeep ∧ BrokenBy .tooDeep readings := by
  cases stems with
  | broken isRead =>
      obtain ⟨query, isReading⟩ := isRead
      obtain rfl := proper.breakdowns _ isReading _ rfl
      exact ⟨rfl, query, isReading⟩
  | code isRead misspelled =>
      obtain ⟨code, spelled⟩ := proper.spelled _ isRead rfl _ rfl
      rw [spelled] at misspelled
      cases misspelled

/-- A contract that was expanded, and the targets that were found. -/
structure Turn where
  visit : Visit
  targets : List Text

/-- The links that a turn adds to a walk. -/
def Turn.links (turn : Turn) : List Link :=
  turn.targets.map fun target => ⟨turn.visit.address, Text.lower target⟩

namespace WalkPlan

variable {plan : WalkPlan} {source target : Text} {walk after : Walk} {readings : List Reading}

/-- A link is passed over if its target was visited, refused if the bound is reached, and followed
with one query for code otherwise. -/
inductive Follows (plan : WalkPlan) (source target : Text) (walk : Walk) :
    List Reading → Walk → Prop where
  | known (visited : walk.hasVisited target = true) :
      Follows plan source target walk [] (walk.addLink ⟨source, target⟩)
  | refused (new : walk.hasVisited target = false) (full : plan.bound ≤ walk.visited.length) :
      Follows plan source target walk []
        { walk.addLink ⟨source, target⟩ with truncated := true }
  | reached {answer : Except ReadFault Json} {code : Code}
      (new : walk.hasVisited target = false) (room : walk.visited.length < plan.bound)
      (spelled : Lookup.codeIn answer = .ok code) :
      Follows plan source target walk [⟨⟨plan.url, .code target⟩, answer⟩]
        ((walk.addLink ⟨source, target⟩).visit ⟨target, code⟩)

/-- The links from a contract to several targets are followed in order. -/
inductive FollowsAll (plan : WalkPlan) (source : Text) :
    List Text → Walk → List Reading → Walk → Prop where
  | nil (walk : Walk) : FollowsAll plan source [] walk [] walk
  | cons {target : Text} {targets : List Text} {walk middle after : Walk}
      {earlier later : List Reading}
      (first : plan.Follows source (Text.lower target) walk earlier middle)
      (rest : FollowsAll plan source targets middle later after) :
      FollowsAll plan source (target :: targets) walk (earlier ++ later) after

/-- A turn finds the targets of a contract and follows the links to them. -/
inductive Expands (plan : WalkPlan) (turn : Turn) (walk : Walk) : List Reading → Walk → Prop where
  | mk {earlier later : List Reading} {after : Walk}
      (found : (Proxy.targetsOfCode plan.url turn.visit.address turn.visit.code).TakesPlace
        earlier (.ok turn.targets))
      (followed : plan.FollowsAll turn.visit.address turn.targets walk later after) :
      Expands plan turn walk (earlier ++ later) after

/-- A walk advances by turns, each of which expands the contract that was found last. -/
inductive Advances (plan : WalkPlan) : Walk → List Turn → List Reading → Walk → Prop where
  | refl (walk : Walk) : Advances plan walk [] [] walk
  | turn {walk middle after : Walk} {turn : Turn} {turns : List Turn} {rest : List Visit}
      {earlier later : List Reading} (isNext : walk.pending = turn.visit :: rest)
      (expands : plan.Expands turn { walk with pending := rest } earlier middle)
      (advances : Advances plan middle turns later after) :
      Advances plan walk (turn :: turns) (earlier ++ later) after

/-! ## What takes place -/

/-- To fetch code is one query for it. -/
theorem takesPlace_fetch_iff {outcome : Except LookupError Code} :
    (plan.fetch target).TakesPlace readings outcome ↔
      ∃ answer, readings = [⟨⟨plan.url, .code target⟩, answer⟩] ∧
        outcome = Lookup.codeIn answer := by
  unfold fetch
  simp only [Lookup.takesPlace_bind_iff, Lookup.takesPlace_tryRead_iff]
  constructor
  · rintro (⟨error, rfl, answer, rfl, isError⟩ | ⟨_, later, _, rfl, ⟨answer, rfl, isOk⟩, rest⟩)
    · refine ⟨answer, rfl, ?_⟩
      rcases answer with (_ | _) | _
      · cases isError
      · cases isError
        rfl
      · cases isError
    · rcases answer with (fault | _) | document
      · cases isOk
        obtain ⟨rfl, rfl⟩ := Lookup.takesPlace_takeNote_pure_iff.1 rest
        exact ⟨.error (.rpc fault), rfl, rfl⟩
      · cases isOk
      · cases isOk
        obtain ⟨rfl, rfl⟩ := Lookup.takesPlace_codeOf_iff.1 rest
        exact ⟨.ok document, rfl, rfl⟩
  · rintro ⟨answer, rfl, rfl⟩
    rcases answer with (fault | cause) | document
    · exact .inr ⟨[_], [], .error fault, rfl, ⟨_, rfl, rfl⟩,
        Lookup.takesPlace_takeNote_pure_iff.2 ⟨rfl, rfl⟩⟩
    · exact .inl ⟨.broken cause, rfl, _, rfl, rfl⟩
    · exact .inr ⟨[_], [], .ok document, rfl, ⟨_, rfl, rfl⟩,
        Lookup.takesPlace_codeOf_iff.2 ⟨rfl, rfl⟩⟩

/-- A fetch fails only by what its answer is. -/
theorem stemsFrom_fetch {error : LookupError}
    (conversation : (plan.fetch target).TakesPlace readings (.error error)) :
    error.StemsFrom readings := by
  obtain ⟨answer, rfl, isError⟩ := takesPlace_fetch_iff.1 conversation
  match answer, isError with
  | .ok document, isError =>
      simp only [Lookup.codeIn] at isError
      cases spelled : Code.ofJson document with
      | ok code => simp [spelled, Except.mapError] at isError
      | error fault =>
          obtain rfl : error = .code fault := by simpa [spelled, Except.mapError] using isError
          exact .code (List.mem_singleton_self _) spelled
  | .error (.broken cause), isError =>
      obtain rfl := Except.error.inj isError
      exact .broken ⟨_, List.mem_singleton_self _⟩

/-- What following a link leads to. -/
theorem follows_of_takesPlace
    (conversation : (plan.follow source walk target).TakesPlace readings (.ok after)) :
    plan.Follows source target walk readings after := by
  unfold follow at conversation
  extract_lets linked at conversation
  split at conversation
  next visited =>
    obtain ⟨rfl, isSame⟩ := Lookup.takesPlace_pure_iff.1 conversation
    obtain rfl := Except.ok.inj isSame
    exact .known visited
  next new =>
    have new : walk.hasVisited target = false := Bool.eq_false_iff.2 new
    split at conversation
    next full =>
      obtain ⟨rfl, isSame⟩ := Lookup.takesPlace_takeNote_pure_iff.1 conversation
      obtain rfl := Except.ok.inj isSame
      exact .refused new full
    next room =>
      have room : (walk.visited.length : Int) < plan.bound := not_le.1 room
      rcases Lookup.takesPlace_bind_iff.1 conversation with
        ⟨_, isError, -⟩ | ⟨_, _, code, rfl, fetched, rest⟩
      · cases isError
      · obtain ⟨answer, rfl, spelled⟩ := takesPlace_fetch_iff.1 fetched
        obtain ⟨rfl, isSame⟩ := Lookup.takesPlace_takeNote_pure_iff.1 rest
        obtain rfl := Except.ok.inj isSame
        exact .reached new room spelled.symm

/-- Following a link fails only by what one of the readings is. -/
theorem stemsFrom_follow {error : LookupError}
    (conversation : (plan.follow source walk target).TakesPlace readings (.error error)) :
    error.StemsFrom readings := by
  unfold follow at conversation
  extract_lets linked at conversation
  split at conversation
  · cases (Lookup.takesPlace_pure_iff.1 conversation).2
  · split at conversation
    · cases (Lookup.takesPlace_takeNote_pure_iff.1 conversation).2
    · rcases Lookup.takesPlace_bind_iff.1 conversation with
        ⟨_, isError, fetched⟩ | ⟨_, _, code, rfl, fetched, rest⟩
      · obtain rfl := Except.error.inj isError
        exact stemsFrom_fetch fetched
      · cases (Lookup.takesPlace_takeNote_pure_iff.1 rest).2

/-- Following the links to several targets either leads on or fails by what a reading is. -/
theorem takesPlace_followAll {targets : List Text} {outcome : Except LookupError Walk}
    (conversation : (plan.followAll source targets walk).TakesPlace readings outcome) :
    (∃ after, outcome = .ok after ∧ plan.FollowsAll source targets walk readings after) ∨
      ∃ error, outcome = .error error ∧ error.StemsFrom readings := by
  induction targets generalizing walk readings with
  | nil =>
      obtain ⟨rfl, rfl⟩ := Lookup.takesPlace_pure_iff.1 conversation
      exact .inl ⟨walk, rfl, .nil walk⟩
  | cons target rest inductionHypothesis =>
      rcases Lookup.takesPlace_bind_iff.1 conversation with
        ⟨error, rfl, failed⟩ | ⟨earlier, later, middle, rfl, followed, conversation⟩
      · exact .inr ⟨error, rfl, stemsFrom_follow failed⟩
      · have first := follows_of_takesPlace followed
        rcases inductionHypothesis conversation with ⟨after, rfl, others⟩ | ⟨error, rfl, stems⟩
        · exact .inl ⟨after, rfl, .cons first others⟩
        · exact .inr ⟨error, rfl, stems.mono (List.subset_append_right _ _)⟩

/-- A turn either leads on or fails by what a reading is. -/
theorem takesPlace_expand {visit : Visit} {outcome : Except LookupError Walk}
    (conversation : (plan.expand visit walk).TakesPlace readings outcome) :
    (∃ after targets, outcome = .ok after ∧ plan.Expands ⟨visit, targets⟩ walk readings after) ∨
      ∃ error, outcome = .error error ∧ error.StemsFrom readings := by
  rcases Lookup.takesPlace_bind_iff.1 conversation with
    ⟨error, rfl, failed⟩ | ⟨earlier, later, targets, rfl, found, conversation⟩
  · obtain ⟨cause, rfl, isRead⟩ := Proxy.brokenBy_targetsOfCode failed
    exact .inr ⟨_, rfl, .broken isRead⟩
  · rcases takesPlace_followAll conversation with ⟨after, rfl, followed⟩ | ⟨error, rfl, stems⟩
    · exact .inl ⟨after, targets, rfl, .mk found followed⟩
    · exact .inr ⟨error, rfl, stems.mono (List.subset_append_right _ _)⟩

/-- A walk with a number of turns to go advances until nothing is pending or the turns are used up,
unless it fails by what a reading is. -/
theorem takesPlace_continueFor {turnsToGo : Nat} {outcome : Except LookupError Walk}
    (conversation : (plan.continueFor turnsToGo walk).TakesPlace readings outcome) :
    (∃ after turns, outcome = .ok after ∧ plan.Advances walk turns readings after ∧
      (after.pending = [] ∨ turns.length = turnsToGo)) ∨
      ∃ error, outcome = .error error ∧ error.StemsFrom readings := by
  induction turnsToGo generalizing walk readings with
  | zero =>
      obtain ⟨rfl, rfl⟩ := Lookup.takesPlace_pure_iff.1 conversation
      exact .inl ⟨walk, [], rfl, .refl walk, .inr rfl⟩
  | succ turnsToGo inductionHypothesis =>
      unfold continueFor at conversation
      split at conversation
      next nothing =>
        obtain ⟨rfl, rfl⟩ := Lookup.takesPlace_pure_iff.1 conversation
        exact .inl ⟨walk, [], rfl, .refl walk, .inl nothing⟩
      next next rest isNext =>
        rcases Lookup.takesPlace_bind_iff.1 conversation with
          ⟨error, rfl, failed⟩ | ⟨earlier, later, middle, rfl, expanded, conversation⟩
        · rcases takesPlace_expand failed with ⟨_, _, isOk, -⟩ | ⟨_, isError, stems⟩
          · cases isOk
          · obtain rfl := Except.error.inj isError
            exact .inr ⟨_, rfl, stems⟩
        · rcases takesPlace_expand expanded with ⟨_, targets, isOk, expands⟩ | ⟨_, isError, -⟩
          · obtain rfl := Except.ok.inj isOk
            rcases inductionHypothesis conversation with
              ⟨after, turns, rfl, advances, ends⟩ | ⟨error, rfl, stems⟩
            · refine .inl ⟨after, ⟨next, targets⟩ :: turns, rfl, .turn isNext expands advances, ?_⟩
              exact ends.imp_right (congrArg Nat.succ)
            · exact .inr ⟨error, rfl, stems.mono (List.subset_append_right _ _)⟩
          · cases isError

end WalkPlan

end TokenLens
