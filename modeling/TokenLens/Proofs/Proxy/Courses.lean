import TokenLens.Proofs.Node.Course
import TokenLens.Proofs.Proxy.Gather

/-!
# Searches before a node that changes

However many workers the probes of a contract are handed to, and in whatever order their requests
and replies come, what is gathered can be had by running the probes one after the other, with
answers that the node gave at some time.
-/

namespace TokenLens

variable {node : List Reading → Query → PostOutcome} {past : List Reading} {url address : Text}

namespace Probe

/-- The course of a gathering: the probes are worked off on some schedule, and what they found is
collected. -/
def gatherCourse (node : List Reading → Query → PostOutcome) (asked : Int) (url address : Text) :
    Course (List Text) :=
  fun session outcome after => ∃ found,
    Pool.WorksOff node (workers asked) (all.map (run url address)) session found after ∧
      (collect [] (all.zip found)).TakesPlace [] outcome

/-- Probes that took place, each on its own, may take place one after the other. -/
theorem takesPlace_runAll_of_each {probes : List Probe} {found : List ProbeOutcome}
    (each : List.Forall₂ (fun dialogue value =>
      ∃ readings, AreRepliesOf node readings ∧ dialogue.TakesPlace readings value)
        (probes.map (run url address)) found) :
    ∃ readings, AreRepliesOf node readings ∧
      (runAll url address probes).TakesPlace readings (probes.zip found) := by
  induction probes generalizing found with
  | nil =>
      cases each
      exact ⟨[], List.forall_mem_nil _, Dialogue.takesPlace_pure_iff.2 ⟨rfl, rfl⟩⟩
  | cons probe rest inductionHypothesis =>
      obtain ⟨outcome, others, ⟨earlier, areReplies, ran⟩, eachOther, rfl⟩ :=
        List.forall₂_cons_left_iff.1 each
      obtain ⟨later, areRepliesToo, ranLater⟩ := inductionHypothesis eachOther
      refine ⟨earlier ++ later, List.forall_mem_append.2 ⟨areReplies, areRepliesToo⟩, ?_⟩
      refine Dialogue.takesPlace_bind_iff.2 ⟨earlier, later, outcome, rfl, ran, ?_⟩
      refine Dialogue.takesPlace_bind_iff.2
        ⟨later, [], _, (List.append_nil later).symm, ranLater, ?_⟩
      exact Dialogue.takesPlace_pure_iff.2 ⟨rfl, rfl⟩

/-- To collect is to send nothing and to leave the caches as they are. -/
theorem run_collect (replies : Query → PostOutcome) (found : List Text)
    (outcomes : List (Probe × ProbeOutcome)) (caches : Caches) : ∃ outcome notes,
      Dialogue.run replies (collect found outcomes) caches = ⟨outcome, caches, [], notes⟩ ∧
        (collect found outcomes).TakesPlace [] outcome := by
  induction outcomes generalizing found with
  | nil => exact ⟨_, _, rfl, .done _⟩
  | cons entry rest inductionHypothesis =>
      match entry with
      | (_, .found address) => exact inductionHypothesis _
      | (probe, .failed reason) =>
          obtain ⟨outcome, notes, isRun, conversation⟩ := inductionHypothesis found
          refine ⟨outcome, .probeFailed probe.name reason :: notes, ?_, .note conversation⟩
          exact congrArg (fun exchange : Exchange (Except LookupError (List Text)) =>
            { exchange with notes := .probeFailed probe.name reason :: exchange.notes }) isRun
      | (_, .broken cause) => exact ⟨_, _, rfl, .done _⟩

/-- While a node stays the same, probes may be worked off one after the other. -/
theorem steps_runAll {workers : Nat} (someWorker : 0 < workers) (probes : List Probe)
    (values : List ProbeOutcome) (session : Session) :
    let exchange := Dialogue.run (node past) (runAll url address probes) session.caches
    ∃ found count, exchange.value = probes.zip found ∧ Steps (Pool.MovesChanging node workers)
      ⟨values.map .finished ++ (probes.map (run url address)).map .queued, session.caches,
        session.sent⟩ count
      ⟨(values ++ found).map .finished, (session.after exchange).caches,
        (session.after exchange).sent⟩ := by
  induction probes generalizing values session with
  | nil =>
      have unchanged : session.after (Dialogue.run (node past) (runAll url address [])
          session.caches) = session := session.after_done (node past) []
      refine ⟨[], 0, rfl, ?_⟩
      rw [unchanged]
      simpa using Steps.refl _
  | cons probe rest inductionHypothesis =>
      intro exchange
      let first := (probe.run url address).run (node past) session.caches
      let second := Dialogue.run (node past) (runAll url address rest) first.caches
      have inTwo : exchange = ⟨(probe, first.value) :: second.value, second.caches,
          first.sent ++ second.sent, first.notes ++ second.notes⟩ := by
        refine (Dialogue.run_bind (node past) (probe.run url address) _ session.caches).trans ?_
        have onwards := Dialogue.run_bind_done (node past) (runAll url address rest)
          (fun outcomes => (probe, first.value) :: outcomes) first.caches
        exact congrArg (fun later : Exchange (List (Probe × ProbeOutcome)) =>
          (⟨later.value, later.caches, first.sent ++ later.sent, first.notes ++ later.notes⟩ :
            Exchange (List (Probe × ProbeOutcome)))) onwards
      obtain ⟨count, begins⟩ := Pool.worksOff_cons past someWorker values (probe.run url address)
        (rest.map (run url address)) session
      obtain ⟨found, more, areFound, continues⟩ :=
        inductionHypothesis (values ++ [first.value]) (session.after first)
      refine ⟨first.value :: found, count + more, ?_, ?_⟩
      · rw [inTwo, List.zip_cons_cons]
        exact congrArg _ areFound
      · have steps := begins.trans continues
        rw [List.append_assoc, List.singleton_append] at steps
        rw [inTwo, Session.after_append]
        exact steps

/-- A gathering is scheduled by handing its probes to workers. -/
theorem schedules_gatherCourse (asked : Int) :
    (gatherCourse node asked url address).Schedules node past (gather url address) where
  takesPlace := by
    rintro session after outcome only ⟨found, worksOff, collected⟩
    obtain ⟨onlyAfter, each⟩ := worksOff.takesPlace only
    obtain ⟨readings, areReplies, ran⟩ := takesPlace_runAll_of_each each
    exact ⟨onlyAfter, readings, areReplies, Lookup.takesPlace_liftM_bind_iff.2
      ⟨readings, [], _, (List.append_nil readings).symm, ran, collected⟩⟩
  admits session := by
    intro exchange
    obtain ⟨found, count, areFound, steps⟩ := @steps_runAll node past url address (workers asked)
      (Pool.size_pos asked all.length) all [] session
    have inTwo : exchange = _ :=
      Lookup.run_liftM_bind (node past) (runAll url address all) (collect []) session.caches
    generalize Dialogue.run (node past) (runAll url address all) session.caches = first
      at areFound steps inTwo
    obtain ⟨outcome, notes, isRun, collected⟩ :=
      run_collect (node past) [] (all.zip found) first.caches
    dsimp only at inTwo
    rw [areFound, isRun] at inTwo
    rw [inTwo, List.append_nil]
    exact ⟨found, ⟨count, steps⟩, collected⟩

end Probe

namespace Proxy

/-- The course of a search for the targets of a contract with the given code. -/
def targetsCourse (node : List Reading → Query → PostOutcome) (asked : Int) (url address : Text)
    (code : Code) : Course (List Text) :=
  if code.bytes.isEmpty then pure []
  else match literalTarget? code with
    | some target => pure [target]
    | none => Probe.gatherCourse node asked url address

/-- A search for targets is scheduled by its course. -/
theorem schedules_targetsCourse (asked : Int) (code : Code) :
    (targetsCourse node asked url address code).Schedules node past
      (targetsOfCode url address code) := by
  unfold targetsCourse targetsOfCode
  split
  · exact Course.schedules_pure []
  · cases literalTarget? code with
    | some target => exact Course.schedules_pure [target]
    | none => exact Probe.schedules_gatherCourse asked

end Proxy

end TokenLens
