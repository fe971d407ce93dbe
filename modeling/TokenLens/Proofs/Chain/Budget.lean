import TokenLens.Proofs.Chain.Judgement
import TokenLens.Proofs.Node.Sending

/-!
# What a judgement spends

Each query for the code of a contract that a walk makes adds one contract to those that it visited,
and none is made once the bound is reached (`WalkPlan.spends_continueFor`). This needs nothing of
the node, and holds as well of a walk that ends in an error. So a judgement reads the code of no
more contracts than its bound allows, its own included, and on any schedule of its probes it asks
for the code of no more (`Chain.judgeCourse_spends`).
-/

namespace TokenLens

variable {node : List Reading → Query → PostOutcome} {past : List Reading}

/-- The contract whose code a query asks for. -/
def Query.contract? (query : Query) : Option Text :=
  match query.read with
  | .code address => some address
  | .storage _ _ => none
  | .call _ _ => none

/-- The contracts whose code is asked for, each as often as it is asked for. -/
def contractsOf (queries : List Query) : List Text :=
  queries.filterMap Query.contract?

/-- Code was asked for as often as it was read. -/
theorem length_contractsOf_queriesOf (readings : List Reading) :
    (contractsOf (queriesOf readings)).length = (codeReadings readings).length := by
  rw [contractsOf, queriesOf, List.filterMap_map, List.length_filterMap_eq_countP, codeReadings,
    ← List.countP_eq_length_filter]
  refine List.countP_congr fun reading _ => ?_
  cases asked : reading.query.read <;>
    simp [Query.contract?, Reading.isCode, NodeRead.isCode, asked]

/-- Where all that was sent is covered by readings, code was asked for no more often than it was
read. -/
theorem length_contractsOf_le {sent : List Query} {readings : List Reading}
    (covered : sent.Subperm (queriesOf readings)) :
    (contractsOf sent).length ≤ (codeReadings readings).length := by
  rw [← length_contractsOf_queriesOf, contractsOf, contractsOf,
    List.length_filterMap_eq_countP, List.length_filterMap_eq_countP]
  exact covered.countP_le _

/-! ## Walks -/

namespace WalkPlan

variable {plan : WalkPlan} {source target : Text} {walk middle : Walk}
  {readings earlier later : List Reading} {outcome : Except LookupError Walk}

/-- A part of a walk reads the code of no more contracts than its bound leaves room for, and visits
one contract for each, if it does not end in an error. -/
structure Spends (plan : WalkPlan) (walk : Walk) (readings : List Reading)
    (outcome : Except LookupError Walk) : Prop where
  limited : (walk.visited.length + (codeReadings readings).length : Int) ≤
    max (walk.visited.length : Int) plan.bound
  counted {after : Walk} (isOk : outcome = .ok after) :
    after.visited.length = walk.visited.length + (codeReadings readings).length

/-- Where no code is read, no contract is visited. -/
theorem spends_nothing (noCode : codeReadings readings = [])
    (unchanged : ∀ after, outcome = .ok after → after.visited.length = walk.visited.length) :
    plan.Spends walk readings outcome where
  limited := by simp [noCode]
  counted isOk := by simp [noCode, unchanged _ isOk]

/-- Two parts of a walk in a row spend what each of them does. -/
theorem Spends.trans (first : plan.Spends walk earlier (.ok middle))
    (second : plan.Spends middle later outcome) : plan.Spends walk (earlier ++ later) outcome where
  limited := by
    have here := first.limited
    have next := second.limited
    have between := first.counted rfl
    rw [codeReadings_append, List.length_append]
    omega
  counted isOk := by
    have between := first.counted rfl
    have last := second.counted isOk
    rw [codeReadings_append, List.length_append]
    omega

/-- A link that is followed costs one query for code, and only while there is room. -/
theorem spends_follow
    (conversation : (plan.follow source walk target).TakesPlace readings outcome) :
    plan.Spends walk readings outcome := by
  unfold follow at conversation
  extract_lets linked at conversation
  split at conversation
  next visited =>
    obtain ⟨rfl, rfl⟩ := Lookup.takesPlace_pure_iff.1 conversation
    exact spends_nothing rfl fun _ => by rintro ⟨⟩; rfl
  next new =>
    split at conversation
    next full =>
      obtain ⟨rfl, rfl⟩ := Lookup.takesPlace_takeNote_pure_iff.1 conversation
      exact spends_nothing rfl fun _ => by rintro ⟨⟩; rfl
    next room =>
      have room : (walk.visited.length : Int) < plan.bound := not_le.1 room
      have affordable {answer : Except ReadFault Json} : (walk.visited.length + (codeReadings
          [⟨⟨plan.url, .code target⟩, answer⟩]).length : Int) ≤
            max (walk.visited.length : Int) plan.bound := by
        have isOne : (codeReadings [⟨⟨plan.url, .code target⟩, answer⟩]).length = 1 := rfl
        omega
      rcases Lookup.takesPlace_bind_iff.1 conversation with
        ⟨error, rfl, failed⟩ | ⟨_, _, code, rfl, fetched, rest⟩
      · obtain ⟨answer, rfl, -⟩ := takesPlace_fetch_iff.1 failed
        exact ⟨affordable, fun isOk => nomatch isOk⟩
      · obtain ⟨answer, rfl, -⟩ := takesPlace_fetch_iff.1 fetched
        obtain ⟨rfl, rfl⟩ := Lookup.takesPlace_takeNote_pure_iff.1 rest
        refine ⟨affordable, ?_⟩
        rintro after ⟨⟩
        exact List.length_append

/-- Following the links to several targets spends what each of them does. -/
theorem spends_followAll {targets : List Text}
    (conversation : (plan.followAll source targets walk).TakesPlace readings outcome) :
    plan.Spends walk readings outcome := by
  induction targets generalizing walk readings with
  | nil =>
      obtain ⟨rfl, rfl⟩ := Lookup.takesPlace_pure_iff.1 conversation
      exact spends_nothing rfl fun _ => by rintro ⟨⟩; rfl
  | cons target rest inductionHypothesis =>
      rcases Lookup.takesPlace_bind_iff.1 conversation with
        ⟨error, rfl, failed⟩ | ⟨earlier, later, middle, rfl, followed, conversation⟩
      · exact ⟨(spends_follow failed).limited, fun isOk => nomatch isOk⟩
      · exact (spends_follow followed).trans (inductionHypothesis conversation)

/-- A turn spends nothing on finding targets, and then what it does on following them. -/
theorem spends_expand {visit : Visit}
    (conversation : (plan.expand visit walk).TakesPlace readings outcome) :
    plan.Spends walk readings outcome := by
  rcases Lookup.takesPlace_bind_iff.1 conversation with
    ⟨error, rfl, failed⟩ | ⟨earlier, later, targets, rfl, found, conversation⟩
  · exact spends_nothing (Proxy.noCode_targetsOfCode failed) fun _ isOk => nomatch isOk
  · have finds : plan.Spends walk earlier (.ok walk) :=
      spends_nothing (Proxy.noCode_targetsOfCode found) fun _ => by rintro ⟨⟩; rfl
    exact finds.trans (spends_followAll conversation)

/-- Turns spend what each of them does. -/
theorem spends_continueFor {turns : Nat}
    (conversation : (plan.continueFor turns walk).TakesPlace readings outcome) :
    plan.Spends walk readings outcome := by
  induction turns generalizing walk readings with
  | zero =>
      obtain ⟨rfl, rfl⟩ := Lookup.takesPlace_pure_iff.1 conversation
      exact spends_nothing rfl fun _ => by rintro ⟨⟩; rfl
  | succ turns inductionHypothesis =>
      unfold continueFor at conversation
      split at conversation
      next =>
        obtain ⟨rfl, rfl⟩ := Lookup.takesPlace_pure_iff.1 conversation
        exact spends_nothing rfl fun _ => by rintro ⟨⟩; rfl
      next next rest isNext =>
        -- What is pending has no part in what is spent.
        have anyPending {readings : List Reading} {outcome : Except LookupError Walk}
            (spends : plan.Spends { walk with pending := rest } readings outcome) :
            plan.Spends walk readings outcome := ⟨spends.limited, spends.counted⟩
        rcases Lookup.takesPlace_bind_iff.1 conversation with
          ⟨error, rfl, failed⟩ | ⟨earlier, later, middle, rfl, expanded, conversation⟩
        · exact ⟨(anyPending (spends_expand failed)).limited, fun isOk => nomatch isOk⟩
        · exact (anyPending (spends_expand expanded)).trans (inductionHypothesis conversation)

end WalkPlan

/-! ## Judgements -/

namespace Chain

variable {url address : Text} {code : Code} {bytecode : Option Json} {bound : Int}
  {registry : Registry} {readings : List Reading}

/-- A walk from a contract whose code is at hand reads the code of no more contracts than its bound
allows besides. -/
theorem resolve_spends {outcome : Except LookupError Resolution}
    (conversation : (resolve url address code bound registry).TakesPlace readings outcome) :
    (1 + (codeReadings readings).length : Int) ≤ max 1 bound := by
  let plan : WalkPlan := ⟨Text.lower address, bound, url⟩
  have walked : ∃ walked, (plan.walk code).TakesPlace readings walked := by
    rcases Lookup.takesPlace_bind_iff.1 conversation with
      ⟨error, -, failed⟩ | ⟨earlier, later, walk, rfl, walked, rest⟩
    · exact ⟨_, failed⟩
    · obtain ⟨rfl, -⟩ := Lookup.takesPlace_pure_iff.1 rest
      rw [List.append_nil]
      exact ⟨_, walked⟩
  obtain ⟨_, walked⟩ := walked
  exact (WalkPlan.spends_continueFor walked).limited

/-- The code of the contract itself is read at most once. -/
theorem codeAt_spends {outcome : Except LookupError Code}
    (conversation : (codeAt url address bytecode).TakesPlace readings outcome) :
    (codeReadings readings).length ≤ 1 := by
  cases bytecode with
  | some document =>
      obtain ⟨rfl, -⟩ := Lookup.takesPlace_codeOf_iff.1 conversation
      exact Nat.zero_le 1
  | none =>
      rw [codeAt_none] at conversation
      cases conversation with
      | @ask _ _ answer _ _ rest =>
          match answer with
          | .ok document =>
              obtain ⟨rfl, -⟩ := Lookup.takesPlace_codeOf_iff.1 rest
              exact Nat.le_refl 1
          | .error fault =>
              cases rest
              exact Nat.le_refl 1

/-- A judgement reads the code of no more contracts than its bound allows, of the contract itself at
least. -/
theorem standardAt_spends {outcome : Except LookupError (Option Text)}
    (conversation : (standardAt url address bytecode bound registry).TakesPlace readings outcome) :
    ((codeReadings readings).length : Int) ≤ max 1 bound := by
  rcases Lookup.takesPlace_bind_iff.1 conversation with
    ⟨error, -, failed⟩ | ⟨earlier, later, code, rfl, fetched, conversation⟩
  · have own := codeAt_spends failed
    omega
  · have own := codeAt_spends fetched
    rw [codeReadings_append, List.length_append]
    split at conversation
    next label _ =>
      obtain ⟨rfl, -⟩ := Lookup.takesPlace_pure_iff.1 conversation
      rw [codeReadings_eq_nil (List.forall_mem_nil _), List.length_nil]
      omega
    next =>
      have others : (1 + (codeReadings later).length : Int) ≤ max 1 bound := by
        rcases Lookup.takesPlace_bind_iff.1 conversation with
          ⟨error, -, failed⟩ | ⟨walking, ending, resolution, rfl, walked, rest⟩
        · exact resolve_spends failed
        · obtain ⟨rfl, -⟩ := Lookup.takesPlace_pure_iff.1 rest
          rw [List.append_nil]
          exact resolve_spends walked
      omega

end Chain

/-! ## Schedules -/

/-- Probes that are worked off side by side may read the same one after the other. -/
theorem Probe.takesPlace_runAll_of_readAll {url address : Text} {probes : List Probe}
    {readings : List Reading} {found : List ProbeOutcome}
    (readAll : Job.ReadAll ((probes.map (run url address)).map .queued) readings found) :
    (runAll url address probes).TakesPlace readings (probes.zip found) := by
  induction probes generalizing readings found with
  | nil =>
      cases readAll
      exact Dialogue.takesPlace_pure_iff.2 ⟨rfl, rfl⟩
  | cons probe rest inductionHypothesis =>
      cases readAll with
      | @cons _ _ earlier later outcome others first readRest =>
          cases first with
          | queued conversation =>
              refine Dialogue.takesPlace_bind_iff.2
                ⟨earlier, later, outcome, rfl, conversation, ?_⟩
              refine Dialogue.takesPlace_bind_iff.2 ⟨later, [], _,
                (List.append_nil later).symm, inductionHypothesis readRest, ?_⟩
              exact Dialogue.takesPlace_pure_iff.2 ⟨rfl, rfl⟩

/-- A gathering accounts for its requests, on whatever schedule. -/
theorem Probe.accounts_gatherCourse (asked : Int) (url address : Text) :
    (gatherCourse node asked url address).Accounts (gather url address) where
  covers := by
    rintro session after outcome ⟨found, worksOff, collected⟩
    obtain ⟨readings, readAll, covered⟩ := worksOff.sent_subperm
    have ran := takesPlace_runAll_of_readAll readAll
    exact ⟨readings, Lookup.takesPlace_liftM_bind_iff.2
      ⟨readings, [], _, (List.append_nil readings).symm, ran, collected⟩, covered⟩

/-- A search for targets accounts for its requests. -/
theorem Proxy.accounts_targetsCourse (asked : Int) (url address : Text) (code : Code) :
    (targetsCourse node asked url address code).Accounts (targetsOfCode url address code) := by
  unfold targetsCourse targetsOfCode
  split
  · exact Course.accounts_pure []
  · cases literalTarget? code with
    | some target => exact Course.accounts_pure [target]
    | none => exact Probe.accounts_gatherCourse asked url address

/-- Turns account for their requests. -/
theorem WalkPlan.accounts_continueCourse (plan : WalkPlan) (asked : Int) (turns : Nat)
    (walk : Walk) :
    (plan.continueCourse node asked turns walk).Accounts (plan.continueFor turns walk) := by
  induction turns generalizing walk with
  | zero => exact Course.accounts_pure walk
  | succ turns inductionHypothesis =>
      unfold continueCourse continueFor
      cases walk.pending with
      | nil => exact Course.accounts_pure walk
      | cons next rest =>
          have turn : (plan.expandCourse node asked next { walk with pending := rest }).Accounts
              (plan.expand next { walk with pending := rest }) :=
            (Proxy.accounts_targetsCourse asked _ _ _).bind fun _ => Course.accounts_course _
          exact turn.bind inductionHypothesis

namespace Chain

/-- A judgement accounts for its requests. -/
theorem accounts_judgeCourse (asked : Int) (url address : Text) (bytecode : Option Json)
    (bound : Int) (registry : Registry) :
    (judgeCourse node past asked url address bytecode bound registry).Accounts
      (standardAt url address bytecode bound registry) := by
  refine (Course.accounts_courseAt past (codeAt url address bytecode)).bind fun code => ?_
  cases registry.bestByPoints (Text.mentions code.text) with
  | some label => exact Course.accounts_pure (some label)
  | none =>
      have walks : (resolveCourse node asked url address code bound registry).Accounts
          (resolve url address code bound registry) :=
        (WalkPlan.accounts_continueCourse _ asked _ _).bind fun _ => Course.accounts_pure _
      exact walks.bind fun _ => Course.accounts_pure _

/-- On any schedule of its probes a judgement asks for the code of no more contracts than its bound
allows, of the contract itself at least. -/
theorem judgeCourse_spends {asked : Int} {url address : Text} {bytecode : Option Json}
    {bound : Int} {registry : Registry} {caches : Caches} {after : Session}
    {outcome : Except LookupError (Option Text)}
    (goes : judgeCourse node past asked url address bytecode bound registry ⟨caches, []⟩ outcome
      after) : ((contractsOf after.sent).length : Int) ≤ max 1 bound := by
  obtain ⟨readings, conversation, covered⟩ :=
    (accounts_judgeCourse asked url address bytecode bound registry).covers goes
  have fewer := length_contractsOf_le covered
  have spent := standardAt_spends conversation
  omega

/-- A judgement by code that fits no standard sends what its walk sends, after the request for the
code. -/
theorem sent_run_standardAt {replies : Query → PostOutcome} {url address : Text}
    {bytecode : Option Json} {bound : Int} {registry : Registry} {caches : Caches} {code : Code}
    (isCode : (Dialogue.run replies (codeAt url address bytecode) caches).value = .ok code)
    (fitsNone : registry.bestByPoints (Text.mentions code.text) = none) :
    let fetched := Dialogue.run replies (codeAt url address bytecode) caches
    (Dialogue.run replies (standardAt url address bytecode bound registry) caches).sent =
      fetched.sent ++
        (Dialogue.run replies (resolve url address code bound registry) fetched.caches).sent := by
  intro fetched
  refine (congrArg Exchange.sent (Dialogue.run_bind replies (codeAt url address bytecode)
    (ExceptT.bindCont _) caches)).trans ?_
  dsimp only
  rw [isCode]
  refine congrArg (fetched.sent ++ ·) ?_
  simp only [ExceptT.bindCont, fitsNone]
  refine (congrArg Exchange.sent (Dialogue.run_bind replies
    (resolve url address code bound registry) (ExceptT.bindCont _) fetched.caches)).trans ?_
  dsimp only
  generalize Dialogue.run replies (resolve url address code bound registry) fetched.caches = walked
  obtain ⟨outcome, caches, sent, notes⟩ := walked
  cases outcome with
  | ok resolution => exact List.append_nil sent
  | error error => exact List.append_nil sent

end Chain

end TokenLens
