import Mathlib.Data.List.Perm.Subperm
import TokenLens.Proofs.Proxy.Gather

/-!
# Races on any schedule

To race is to look at the probes as they come to their ends, in any order, and to take the first
address that one of them found. Failures are passed over.
-/

namespace TokenLens

/-- A race at work: its probes, and the places of those that were passed over. -/
structure Race where
  pool : Pool ProbeOutcome
  passed : List Nat

namespace Race

/-- A race moves: its pool moves, or a probe that failed is passed over. -/
inductive Moves (node : Query → PostOutcome) (workers : Nat) : Race → Race → Prop where
  | work {pool next : Pool ProbeOutcome} {passed : List Nat}
      (move : pool.Moves node workers next) : Moves node workers ⟨pool, passed⟩ ⟨next, passed⟩
  | pass {pool : Pool ProbeOutcome} {passed : List Nat} {place : Nat} {reason : Text}
      (failed : pool.jobs[place]? = some (.finished (.failed reason))) (isNew : place ∉ passed) :
      Moves node workers ⟨pool, passed⟩ ⟨pool, place :: passed⟩

/-- A race ends with a probe that found an address, with one that broke down, or after all of them
were passed over. -/
inductive Ends (race : Race) : Except LookupError (Option Text) → Prop where
  | won {place : Nat} {target : Text}
      (found : race.pool.jobs[place]? = some (.finished (.found target))) :
      Ends race (.ok (some target))
  | brokeDown {place : Nat} {cause : Breakdown}
      (broken : race.pool.jobs[place]? = some (.finished (.broken cause))) :
      Ends race (.error (.broken cause))
  | lost (allPassed : ∀ place < race.pool.jobs.length, place ∈ race.passed) : Ends race (.ok none)

/-- A race that may be over. -/
def IsOver (race : Race) : Prop :=
  ∃ outcome, race.Ends outcome

/-- A race in which nothing has been passed over. -/
def start (pool : Pool ProbeOutcome) : Race :=
  ⟨pool, []⟩

variable {node : Query → PostOutcome} {workers : Nat}

/-- What holds of a race that started with a pool: the pool ran for all moves but those that passed
over a probe, and only probes that are bound to fail were passed over, each once. -/
structure Continues (node : Query → PostOutcome) (workers : Nat) (first : Pool ProbeOutcome)
    (count : Nat) (race : Race) : Prop where
  runs : ∃ moves, first.Runs node workers moves race.pool ∧ count = moves + race.passed.length
  distinct : race.passed.Nodup
  failed : ∀ place ∈ race.passed, ∃ reason,
    (first.fates fun query => (node query).result)[place]? = some (.failed reason)

/-- While nothing is passed over, a race runs as its pool does. -/
theorem steps_of_runs {pool next : Pool ProbeOutcome} {count : Nat} (passed : List Nat)
    (runs : pool.Runs node workers count next) :
    Steps (Moves node workers) ⟨pool, passed⟩ count ⟨next, passed⟩ :=
  Steps.map (fun pool => Race.mk pool passed) (fun _ _ move => Moves.work move) runs

/-- At its end a job of a race is in what it was bound to end in from the start. -/
theorem Continues.fate {first : Pool ProbeOutcome} {count place : Nat} {race : Race}
    {outcome : ProbeOutcome} (continues : race.Continues node workers first count)
    (reflects : first.caches.Reflects fun query => (node query).result)
    (finished : race.pool.jobs[place]? = some (.finished outcome)) :
    (first.fates fun query => (node query).result)[place]? = some outcome := by
  obtain ⟨moves, runs, -⟩ := continues.runs
  rw [← (Pool.Runs.keeps runs reflects).2.1]
  exact Pool.getElem?_fates finished

/-- Every race continues the pool that it started with. -/
theorem continues_of_steps {first : Pool ProbeOutcome} {race : Race} {count : Nat}
    (reflects : first.caches.Reflects fun query => (node query).result)
    (steps : Steps (Moves node workers) (start first) count race) :
    race.Continues node workers first count := by
  induction steps with
  | refl => exact ⟨⟨0, .refl _, rfl⟩, .nil, by simp [start]⟩
  | step _ move continues =>
      obtain ⟨moves, runs, counted⟩ := continues.runs
      cases move with
      | work move =>
          refine ⟨⟨moves + 1, runs.step move, ?_⟩, continues.distinct, continues.failed⟩
          simp only at counted ⊢
          omega
      | pass failed isNew =>
          refine ⟨⟨moves, runs, ?_⟩, List.nodup_cons.2 ⟨isNew, continues.distinct⟩, ?_⟩
          · simp only [List.length_cons] at counted ⊢
            omega
          · -- What a job at its end has failed with is its fate, which no later move changes.
            exact List.forall_mem_cons.2 ⟨⟨_, continues.fate reflects failed⟩, continues.failed⟩

/-- No more probes are passed over than there are. -/
theorem Continues.length_passed_le {first : Pool ProbeOutcome} {count : Nat} {race : Race}
    (continues : race.Continues node workers first count) :
    race.passed.length ≤ first.jobs.length := by
  have within : race.passed ⊆ List.range first.jobs.length := by
    intro place isPassed
    obtain ⟨reason, isFate⟩ := continues.failed place isPassed
    have isPlace := (List.getElem?_eq_some_iff.1 isFate).1
    rw [Pool.fates, List.length_map] at isPlace
    exact List.mem_range.2 isPlace
  have few := (List.subperm_of_subset continues.distinct within).length_le
  rwa [List.length_range] at few

/-- After all probes were passed over, all were bound to fail. -/
theorem Continues.all_failed {first : Pool ProbeOutcome} {count : Nat} {race : Race}
    (continues : race.Continues node workers first count)
    (reflects : first.caches.Reflects fun query => (node query).result)
    (allPassed : ∀ place < race.pool.jobs.length, place ∈ race.passed) {outcome : ProbeOutcome}
    (isFate : outcome ∈ first.fates fun query => (node query).result) :
    ∃ reason, outcome = .failed reason := by
  obtain ⟨moves, runs, -⟩ := continues.runs
  obtain ⟨place, isPlace, isHere⟩ := List.mem_iff_getElem.1 isFate
  have sameLength : race.pool.jobs.length =
      (first.fates fun query => (node query).result).length := by
    rw [← (Pool.Runs.keeps runs reflects).2.1, Pool.fates, List.length_map]
  obtain ⟨reason, failed⟩ := continues.failed place (allPassed place (sameLength ▸ isPlace))
  rw [List.getElem?_eq_getElem isPlace, isHere] at failed
  exact ⟨reason, Option.some.inj failed⟩

/-- A race whose probes are at their ends is over, or one of them can be passed over. -/
theorem isOver_or_moves (race : Race) (finished : race.pool.IsFinished) :
    race.IsOver ∨ ∃ next, race.Moves node workers next := by
  obtain ⟨values, areFinished⟩ := finished
  by_cases allPassed : ∀ place < race.pool.jobs.length, place ∈ race.passed
  · exact .inl ⟨_, .lost allPassed⟩
  · push Not at allPassed
    obtain ⟨place, isPlace, isNew⟩ := allPassed
    have isValue : place < values.length := by simpa [areFinished] using isPlace
    have isFinished : race.pool.jobs[place]? = some (.finished values[place]) := by
      simp [areFinished, isValue]
    cases ending : values[place] with
    | found target => exact .inl ⟨_, .won (isFinished.trans (by rw [ending]))⟩
    | failed reason => exact .inr ⟨_, .pass (isFinished.trans (by rw [ending])) isNew⟩
    | broken cause => exact .inl ⟨_, .brokeDown (isFinished.trans (by rw [ending]))⟩

/-- Whatever its schedule, a race is over within the moves of its pool and one more for each
probe. -/
theorem endsWithin {pool : Pool ProbeOutcome} {bound : Nat}
    (reflects : pool.caches.Reflects fun query => (node query).result)
    (poolEnds : EndsWithin (Pool.Moves node workers) Pool.IsFinished bound pool) :
    EndsWithin (Moves node workers) IsOver (bound + pool.jobs.length) (start pool) := by
  intro count race steps
  have continues := continues_of_steps reflects steps
  obtain ⟨moves, runs, counted⟩ := continues.runs
  obtain ⟨bounded, goesOn⟩ := poolEnds moves race.pool runs
  have few := continues.length_passed_le
  refine ⟨by omega, ?_⟩
  rcases goesOn with finished | ⟨next, move⟩
  · exact race.isOver_or_moves finished
  · exact .inr ⟨_, .work move⟩

end Race

namespace Probe

/-- The probes raced on some schedule. -/
inductive Races (node : Query → PostOutcome) (asked : Int) (url address : Text)
    (caches : Caches) : Except LookupError (Option Text) → List Query → Prop where
  | over {count : Nat} {last : Race} {outcome : Except LookupError (Option Text)}
      (runs : Steps (Race.Moves node (workers asked)) (.start (pool url address caches)) count last)
      (ends : last.Ends outcome) : Races node asked url address caches outcome last.pool.sent

/-- What a race may find when the answers that count are given: any address that one of them holds,
or none if none does. If an answer is nested too deeply, the race may break down. -/
inductive MayFind (stated : List (Except ReadFault Json)) :
    Except LookupError (Option Text) → Prop where
  | won {target : Text} (isHeld : target ∈ stated.filterMap heldAddress?) :
      MayFind stated (.ok (some target))
  | tooDeep (isStated : .error (.broken .tooDeep) ∈ stated) :
      MayFind stated (.error (.broken .tooDeep))
  | lost (noneHeld : stated.filterMap heldAddress? = [])
      (readable : .error (.broken .tooDeep) ∉ stated) : MayFind stated (.ok none)

variable {node : Query → PostOutcome} {url address : Text} {caches : Caches} {asked : Int}

/-- What the probes of a contract are bound to end in. -/
theorem fates_pool (answers : Query → Except ReadFault Json) :
    (pool url address caches).fates answers =
      (lastAnswers answers url address).map ProbeOutcome.ofAnswer := by
  rw [pool, Pool.fates_start, evaluate_all]

/-- Whatever the schedule, a race finds what it may find. -/
theorem mayFind_of_races (objects : HasErrorObjects node)
    (reflects : caches.Reflects fun query => (node query).result)
    {outcome : Except LookupError (Option Text)} {sent : List Query}
    (races : Races node asked url address caches outcome sent) :
    MayFind (lastAnswers (fun query => (node query).result) url address) outcome := by
  obtain ⟨runs, ends⟩ := races
  have continues := Race.continues_of_steps reflects runs
  have meaning {place : Nat} {outcome : ProbeOutcome}
      (isFate : ((pool url address caches).fates fun query => (node query).result)[place]? =
        some outcome) :
      ∃ answer ∈ lastAnswers (fun query => (node query).result) url address,
        ProbeOutcome.ofAnswer answer = outcome := by
    rw [fates_pool] at isFate
    exact List.mem_map.1 (List.mem_of_getElem? isFate)
  cases ends with
  | won found =>
      obtain ⟨answer, isLast, isFound⟩ := meaning (continues.fate reflects found)
      exact .won
        (List.mem_filterMap.2 ⟨answer, isLast, ProbeOutcome.ofAnswer_eq_found_iff.1 isFound⟩)
  | brokeDown broken =>
      obtain ⟨answer, isLast, isBroken⟩ := meaning (continues.fate reflects broken)
      obtain rfl := ProbeOutcome.ofAnswer_eq_broken_iff.1 isBroken
      obtain ⟨query, isAnswer⟩ := exists_query_of_mem_lastAnswers isLast
      obtain rfl := objects.cause_eq isAnswer.symm
      exact .tooDeep isLast
  | lost allPassed =>
      have failed {answer : Except ReadFault Json}
          (isLast : answer ∈ lastAnswers (fun query => (node query).result) url address) :
          ∃ reason, ProbeOutcome.ofAnswer answer = .failed reason := by
        refine continues.all_failed reflects allPassed ?_
        rw [fates_pool]
        exact List.mem_map_of_mem isLast
      refine .lost (List.filterMap_eq_nil_iff.2 fun answer isLast => ?_) fun isDeep => ?_
      · obtain ⟨reason, isFailed⟩ := failed isLast
        rw [← ProbeOutcome.address?_ofAnswer, isFailed]
        rfl
      · obtain ⟨reason, isFailed⟩ := failed isDeep
        cases isFailed

/-- A race goes on with the outcome of its first probe. -/
theorem outcome_race_cons (answers : Query → Except ReadFault Json) (probe : Probe)
    (rest : List Probe) :
    (race url address (probe :: rest)).outcome answers =
      match (probe.run url address).evaluate answers with
      | .found target => .ok (some target)
      | .failed _ => (race url address rest).outcome answers
      | .broken cause => .error (.broken cause) := by
  rw [race, Lookup.outcome_liftM_bind]
  cases (probe.run url address).evaluate answers with
  | found target => rfl
  | failed reason =>
      dsimp only
      rw [Lookup.outcome_bind, Lookup.outcome_takeNote]
      rfl
  | broken cause => rfl

/-- After failures that were passed over, the probes that are left can be worked off and looked at
one after the other. -/
theorem exists_steps_race {workers : Nat} (someWorker : 0 < workers) (rest : List Probe)
    (values : List ProbeOutcome) {passed : List Nat}
    (allPassed : ∀ place, place ∈ passed ↔ place < values.length)
    (reflects : caches.Reflects fun query => (node query).result) (sent : List Query) :
    ∃ count last, Steps (Race.Moves node workers)
      ⟨⟨values.map .finished ++ (rest.map (run url address)).map .queued, caches, sent⟩, passed⟩
      count last ∧
        last.Ends ((race url address rest).outcome fun query => (node query).result) := by
  -- Induction on the probes that are left. Those before them are at their ends, and exactly
  -- these were passed over.
  induction rest generalizing values passed caches sent with
  | nil => exact ⟨0, _, .refl _, .lost (by simp [allPassed])⟩
  | cons probe rest inductionHypothesis =>
      obtain ⟨count, runs⟩ := Pool.runs_first node someWorker values
        (probe.run url address) (rest.map (run url address)) caches sent
      have steps := Race.steps_of_runs passed runs
      obtain ⟨-, keeps⟩ := Dialogue.run_spares (probe.run url address) reflects
      rw [outcome_race_cons, ← Dialogue.value_run (probe.run url address) reflects]
      -- From here on only the value of the probe and the caches that it leaves matter.
      generalize (probe.run url address).run node caches = exchange at steps keeps
      obtain ⟨ending, later, asked, notes⟩ := exchange
      have isNext : ((values ++ [ending]).map Job.finished ++
          (rest.map (run url address)).map Job.queued)[values.length]? =
            some (.finished ending) := by
        simp
      cases ending with
      | found target => exact ⟨_, _, steps, .won isNext⟩
      | failed reason =>
          have isNew : values.length ∉ passed := by simp [allPassed]
          have allPassedNow (place : Nat) : place ∈ values.length :: passed ↔
              place < (values ++ [ProbeOutcome.failed reason]).length := by
            simp only [List.mem_cons, allPassed, List.length_append, List.length_singleton]
            omega
          obtain ⟨further, last, onwards, ends⟩ :=
            inductionHypothesis _ allPassedNow keeps (sent ++ asked)
          exact ⟨_, last, (steps.step (.pass isNext isNew)).trans onwards, ends⟩
      | broken cause => exact ⟨_, _, steps, .brokeDown isNext⟩

/-- The race that runs the probes one after the other is one of the schedules. -/
theorem exists_races (reflects : caches.Reflects fun query => (node query).result) (asked : Int) :
    ∃ sent, Races node asked url address caches
      ((race url address all).outcome fun query => (node query).result) sent := by
  have nonePassed (place : Nat) : place ∈ [] ↔ place < ([] : List ProbeOutcome).length := by simp
  obtain ⟨count, last, runs, ends⟩ := exists_steps_race (Pool.size_pos asked all.length) all []
    nonePassed reflects []
  exact ⟨_, .over runs ends⟩

end Probe

end TokenLens
