import Mathlib.Data.List.Forall2
import Mathlib.Logic.Hydra
import TokenLens.Proofs.Node.Pool
import TokenLens.Proofs.Node.Proper

/-!
# Courses of a session

Where several dialogues are worked on side by side before a node that changes its mind, what comes
of them depends on the order of requests and replies and on what the node makes of each request at
its time. A `Course` is the relation that leaves all of this open. Courses are put together like
lookups. A course *schedules* a lookup (`Course.Schedules`) if whatever comes of it can be had in a
conversation of the lookup with answers that the node gave at some time, and if to run the lookup on
its own is one of its ways. So what is shown of all conversations of a lookup holds however its
parts are scheduled.
-/

namespace TokenLens

variable {α β : Type} {node : List Reading → Query → PostOutcome} {workers : Nat}

/-- What is remembered in a session, and the requests that were sent in it so far. -/
structure Session where
  caches : Caches
  sent : List Query

/-- A session after an exchange in it. -/
def Session.after (session : Session) (exchange : Exchange α) : Session :=
  ⟨exchange.caches, session.sent ++ exchange.sent⟩

/-- The ways in which a computation may go in a session: its outcome, and the session after it. -/
def Course (α : Type) : Type :=
  Session → Except LookupError α → Session → Prop

/-- A computation that fails is not followed by another. -/
instance : Monad Course where
  pure value := fun session outcome after => outcome = .ok value ∧ after = session
  bind first next := fun session outcome after =>
    (∃ error, outcome = .error error ∧ first session (.error error) after) ∨
      ∃ value middle, first session (.ok value) middle ∧ next value middle outcome after

/-- Readings whose answers a node gave, each at some time. -/
def AreRepliesOf (node : List Reading → Query → PostOutcome) (readings : List Reading) : Prop :=
  ∀ reading ∈ readings, ∃ past, reading.answer = (node past reading.query).result

/-- What a node stated in reply to a query at some time. -/
def Stated (node : List Reading → Query → PostOutcome) (query : Query) (answer : Json) : Prop :=
  ∃ past, (node past query).result = .ok answer

namespace Pool

/-- A pool moves before a node that changes: the node replies as it would after some past. Which
past that is stays open, for side by side there is no one order in which all was read. -/
def MovesChanging (node : List Reading → Query → PostOutcome) (workers : Nat)
    (pool next : Pool α) : Prop :=
  ∃ past, pool.Moves (node past) workers next

/-- Dialogues are worked off in a session, on some schedule. -/
def WorksOff (node : List Reading → Query → PostOutcome) (workers : Nat)
    (dialogues : List (Dialogue α)) (session : Session) (values : List α) (after : Session) :
    Prop :=
  ∃ count, Steps (MovesChanging node workers)
    ⟨dialogues.map .queued, session.caches, session.sent⟩ count
    ⟨values.map .finished, after.caches, after.sent⟩

end Pool

/-- The course of a lookup that one worker works on. -/
def Lookup.course (node : List Reading → Query → PostOutcome) (lookup : Lookup α) : Course α :=
  fun session outcome after =>
    Pool.WorksOff (α := Except LookupError α) node 1 [lookup] session [outcome] after

/-- The course of a lookup before a node that does not change meanwhile. -/
def Lookup.courseAt (node : Query → PostOutcome) (lookup : Lookup α) : Course α :=
  fun session outcome after =>
    let exchange := Dialogue.run node lookup session.caches
    outcome = exchange.value ∧ after = session.after exchange

/-! ## Every schedule is a conversation -/

/-- Caches hold only what a node stated when a reply of it arrives. -/
theorem Caches.Only.receive {caches : Caches} (only : caches.Only (Stated node))
    (past : List Reading) (query : Query) :
    (caches.receive query (node past query).result).Only (Stated node) := by
  unfold Caches.receive
  split
  next answer isAnswer =>
    split
    · exact only
    · exact only.remember ⟨past, isAnswer⟩
  next => exact only

namespace Job

/-- What is left of a job: the dialogue that it has still to hold. -/
def rest : Job α → Dialogue α
  | queued dialogue => dialogue
  | active dialogue => dialogue
  | waiting query next => .ask query next
  | finished value => .done value

/-- What is left of a job may end in a value. -/
def MayEndIn (node : List Reading → Query → PostOutcome) (job : Job α) (value : α) : Prop :=
  ∃ readings, AreRepliesOf node readings ∧ job.rest.TakesPlace readings value

/-- What a job may end in after a move, it may end in before. -/
theorem Moves.mayEndIn {past : List Reading} {job moved : Job α} {caches changed : Caches}
    {value : α} (moves : job.Moves (node past) caches moved changed)
    (only : caches.Only (Stated node)) (mayEnd : moved.MayEndIn node value) :
    job.MayEndIn node value := by
  obtain ⟨readings, areReplies, conversation⟩ := mayEnd
  cases moves with
  | note => exact ⟨readings, areReplies, .note conversation⟩
  | hit known =>
      obtain ⟨earlier, isAnswer⟩ := (only.consult known).1
      exact ⟨_, List.forall_mem_cons.2 ⟨⟨earlier, isAnswer.symm⟩, areReplies⟩, .ask conversation⟩
  | reply => exact ⟨_, List.forall_mem_cons.2 ⟨⟨past, rfl⟩, areReplies⟩, .ask conversation⟩
  | finish => exact ⟨readings, areReplies, conversation⟩

/-- Caches hold only what a node stated after a move of a job. -/
theorem Moves.only {past : List Reading} {job moved : Job α} {caches changed : Caches}
    (moves : job.Moves (node past) caches moved changed) (only : caches.Only (Stated node)) :
    changed.Only (Stated node) := by
  cases moves with
  | note => exact only
  | hit known => exact (only.consult known).2
  | reply => exact only.receive past _
  | finish => exact only

end Job

/-- One element of a list may be replaced by another that is related to no less. -/
theorem forall₂_replace {relation : α → β → Prop} {element other : α}
    (implies : ∀ partner, relation element partner → relation other partner)
    (before after : List α) {partners : List β}
    (related : List.Forall₂ relation (before ++ element :: after) partners) :
    List.Forall₂ relation (before ++ other :: after) partners := by
  induction before generalizing partners with
  | nil =>
      cases related with
      | cons here later => exact .cons (implies _ here) later
  | cons first before inductionHypothesis =>
      cases related with
      | cons here later => exact .cons here (inductionHypothesis later)

namespace Pool

/-- What the jobs of a pool may end in after a move, they may end in before. -/
theorem MovesChanging.mayEndIn {pool next : Pool α} {values : List α}
    (moves : pool.MovesChanging node workers next) (only : pool.caches.Only (Stated node))
    (mayEnd : List.Forall₂ (Job.MayEndIn node) next.jobs values) :
    List.Forall₂ (Job.MayEndIn node) pool.jobs values := by
  obtain ⟨past, move⟩ := moves
  cases move with
  | takeUp =>
      refine forall₂_replace ?_ _ _ mayEnd
      exact fun _ => id
  | send =>
      refine forall₂_replace ?_ _ _ mayEnd
      exact fun _ => id
  | work moves => exact forall₂_replace (fun _ => moves.mayEndIn only) _ _ mayEnd

/-- Caches hold only what a node stated after a move of a pool. -/
theorem MovesChanging.only {pool next : Pool α} (moves : pool.MovesChanging node workers next)
    (only : pool.caches.Only (Stated node)) : next.caches.Only (Stated node) := by
  obtain ⟨past, move⟩ := moves
  cases move with
  | takeUp => exact only
  | send => exact only
  | work moves => exact moves.only only

/-- After steps of a pool, caches hold only what the node stated, and what its jobs may still end
in, they might have ended in before. -/
theorem mayEndIn_of_steps {first last : Pool α} {count : Nat}
    (steps : Steps (MovesChanging node workers) first count last)
    (only : first.caches.Only (Stated node)) :
    last.caches.Only (Stated node) ∧ ∀ values,
      List.Forall₂ (Job.MayEndIn node) last.jobs values →
        List.Forall₂ (Job.MayEndIn node) first.jobs values := by
  induction steps with
  | refl => exact ⟨only, fun _ => id⟩
  | step _ moves inductionHypothesis =>
      obtain ⟨onlyHere, before⟩ := inductionHypothesis
      exact ⟨moves.only onlyHere,
        fun values mayEnd => before values (moves.mayEndIn onlyHere mayEnd)⟩

/-- Dialogues that were worked off took place, each on its own, with replies of the node. -/
theorem WorksOff.takesPlace {dialogues : List (Dialogue α)} {session after : Session}
    {values : List α} (worksOff : WorksOff node workers dialogues session values after)
    (only : session.caches.Only (Stated node)) :
    after.caches.Only (Stated node) ∧ List.Forall₂ (fun dialogue value =>
      ∃ readings, AreRepliesOf node readings ∧ dialogue.TakesPlace readings value)
        dialogues values := by
  obtain ⟨count, steps⟩ := worksOff
  obtain ⟨onlyAfter, before⟩ := mayEndIn_of_steps steps only
  refine ⟨onlyAfter, ?_⟩
  have finished : List.Forall₂ (Job.MayEndIn node) (values.map .finished) values :=
    List.forall₂_map_left_iff.2 (List.forall₂_same.2 fun value _ =>
      ⟨[], List.forall_mem_nil _, .done value⟩)
  exact List.forall₂_map_left_iff.1 (before values finished)

end Pool

/-! ## Each schedule comes to its end -/

/-- What a job may be after a move, whatever is answered. -/
inductive Job.MovesTo : Job α → Job α → Prop where
  | takeUp {dialogue : Dialogue α} : MovesTo (.queued dialogue) (.active dialogue)
  | note {noted : Note} {next : Dialogue α} : MovesTo (.active (.note noted next)) (.active next)
  | hit {query : Query} {next : Except ReadFault Json → Dialogue α}
      {answer : Except ReadFault Json} :
      MovesTo (.active (.ask query next)) (.active (next answer))
  | send {query : Query} {next : Except ReadFault Json → Dialogue α} :
      MovesTo (.active (.ask query next)) (.waiting query next)
  | reply {query : Query} {next : Except ReadFault Json → Dialogue α}
      {answer : Except ReadFault Json} : MovesTo (.waiting query next) (.active (next answer))
  | finish {value : α} : MovesTo (.active (.done value)) (.finished value)

/-- A job at work comes to its end: each move leaves less of its dialogue. -/
theorem Job.acc_active (dialogue : Dialogue α) :
    Acc (fun moved job : Job α => job.MovesTo moved) (.active dialogue) := by
  induction dialogue with
  | done value =>
      refine ⟨_, fun moved moves => ?_⟩
      cases moves with
      | finish => exact ⟨_, fun _ moves => nomatch moves⟩
  | ask query next inductionHypothesis =>
      refine ⟨_, fun moved moves => ?_⟩
      cases moves with
      | hit => exact inductionHypothesis _
      | send =>
          refine ⟨_, fun moved moves => ?_⟩
          cases moves with
          | reply => exact inductionHypothesis _
  | note noted next inductionHypothesis =>
      refine ⟨_, fun moved moves => ?_⟩
      cases moves with
      | note => exact inductionHypothesis

/-- No job moves for ever. -/
theorem Job.wellFounded_movesTo : WellFounded fun moved job : Job α => job.MovesTo moved := by
  refine ⟨fun job => ⟨_, fun moved moves => ?_⟩⟩
  cases moves with
  | takeUp => exact acc_active _
  | note => exact acc_active _
  | hit => exact acc_active _
  | send =>
      refine ⟨_, fun moved moves => ?_⟩
      cases moves with
      | reply => exact acc_active _
  | reply => exact acc_active _
  | finish => exact ⟨_, fun _ moves => nomatch moves⟩

/-- A move of a job without a request is one of those that it may make. -/
theorem Job.Moves.movesTo {replies : Query → PostOutcome} {job moved : Job α}
    {caches changed : Caches} (moves : job.Moves replies caches moved changed) :
    job.MovesTo moved := by
  cases moves with
  | note => exact .note
  | hit known => exact .hit
  | reply => exact .reply
  | finish => exact .finish

/-- No pool moves for ever before a node, however that changes. -/
theorem Pool.wellFounded_movesChanging : WellFounded fun next pool : Pool α =>
    pool.MovesChanging node workers next := by
  -- One job is replaced by another that it may move to, and all others stay.
  have bounded : WellFounded (InvImage
      (Relation.CutExpand fun moved job : Job α => job.MovesTo moved)
      fun pool : Pool α => (pool.jobs : Multiset (Job α))) :=
    InvImage.wf _ Job.wellFounded_movesTo.cutExpand
  refine Subrelation.wf ?_ bounded
  rintro next pool ⟨past, move⟩
  have replaced {job moved : Job α} (moves : job.MovesTo moved) (before after : List (Job α)) :
      Relation.CutExpand (fun moved job : Job α => job.MovesTo moved)
        (before ++ moved :: after : List (Job α)) (before ++ job :: after : List (Job α)) := by
    refine ⟨{moved}, job, by simpa using moves, ?_⟩
    have rotated (other : Job α) : ((before ++ other :: after : List (Job α)) : Multiset (Job α)) =
        (before ++ after : List (Job α)) + {other} := by
      rw [Multiset.add_comm, Multiset.singleton_add, Multiset.cons_coe, Multiset.coe_eq_coe]
      exact List.perm_middle
    rw [rotated job, rotated moved, add_assoc, add_assoc]
    exact congrArg _ (add_comm _ _)
  cases move with
  | takeUp => exact replaced .takeUp _ _
  | send => exact replaced .send _ _
  | work moves => exact replaced moves.movesTo _ _

/-! ## One after the other -/

/-- To run a dialogue that goes on is to run it and then what it goes on with. -/
theorem Dialogue.run_bind (replies : Query → PostOutcome) (dialogue : Dialogue α)
    (continuation : α → Dialogue β) (caches : Caches) :
    (dialogue.bind continuation).run replies caches =
      let first := dialogue.run replies caches
      let second := (continuation first.value).run replies first.caches
      ⟨second.value, second.caches, first.sent ++ second.sent, first.notes ++ second.notes⟩ := by
  induction dialogue generalizing caches with
  | done value => rfl
  | ask query next inductionHypothesis =>
      simp only [bind, run]
      cases caches.consult query with
      | some entry => simp only [inductionHypothesis]
      | none =>
          cases (replies query).result with
          | ok answer => simp only [inductionHypothesis, List.cons_append]
          | error fault => simp only [inductionHypothesis, List.cons_append]
  | note noted next inductionHypothesis =>
      simp only [bind, run, inductionHypothesis, List.cons_append]

/-- To run a dialogue whose value is then mapped is to run it and map its value. -/
theorem Dialogue.run_bind_done (replies : Query → PostOutcome) (dialogue : Dialogue α)
    (map : α → β) (caches : Caches) :
    (dialogue.bind fun value => .done (map value)).run replies caches =
      let exchange := dialogue.run replies caches
      ⟨map exchange.value, exchange.caches, exchange.sent, exchange.notes⟩ := by
  simp [run_bind, run]

/-- To run a lookup that starts with a dialogue is to run that dialogue and then the rest. -/
theorem Lookup.run_liftM_bind (replies : Query → PostOutcome) (dialogue : Dialogue α)
    (continuation : α → Lookup β) (caches : Caches) :
    Dialogue.run replies ((liftM dialogue : Lookup α) >>= continuation : Lookup β) caches =
      let first := dialogue.run replies caches
      let second := Dialogue.run replies (continuation first.value) first.caches
      ⟨second.value, second.caches, first.sent ++ second.sent, first.notes ++ second.notes⟩ := by
  refine Eq.trans ?_ (Dialogue.run_bind replies dialogue continuation caches)
  exact congrArg (Dialogue.run replies · caches) (Dialogue.bind_bind dialogue _ _)

/-- A session after two exchanges is the session after the second, held after the first. -/
theorem Session.after_append {γ : Type} (session : Session) (first : Exchange α)
    (second : Exchange β) (value : γ) (notes : List Note) :
    session.after ⟨value, second.caches, first.sent ++ second.sent, notes⟩ =
      (session.after first).after second := by
  rw [after, after, after, List.append_assoc]

/-- A session is unchanged by a dialogue that is done. -/
theorem Session.after_done (session : Session) (replies : Query → PostOutcome) (value : α) :
    session.after (Dialogue.run replies (.done value) session.caches) = session := by
  simp [after, Dialogue.run]

/-- While a node stays the same, dialogues may be worked off one after the other, the first one
first. -/
theorem Pool.worksOff_cons (past : List Reading) (someWorker : 0 < workers) (values : List α)
    (dialogue : Dialogue α) (rest : List (Dialogue α)) (session : Session) :
    let exchange := dialogue.run (node past) session.caches
    ∃ count, Steps (MovesChanging node workers)
      ⟨values.map .finished ++ (dialogue :: rest).map .queued, session.caches, session.sent⟩ count
      ⟨(values ++ [exchange.value]).map .finished ++ rest.map .queued,
        (session.after exchange).caches, (session.after exchange).sent⟩ := by
  obtain ⟨count, runs⟩ := runs_first (node past) someWorker values dialogue rest session.caches
    session.sent
  exact ⟨count, runs.map id fun _ _ move => ⟨past, move⟩⟩

/-- A course of a lookup, whose parts may be scheduled in any way. -/
structure Course.Schedules (course : Course α) (node : List Reading → Query → PostOutcome)
    (past : List Reading) (lookup : Lookup α) : Prop where
  /-- Whatever comes of it can be had in a conversation. -/
  takesPlace {session after : Session} {outcome : Except LookupError α}
    (only : session.caches.Only (Stated node)) (goes : course session outcome after) :
    after.caches.Only (Stated node) ∧
      ∃ readings, AreRepliesOf node readings ∧ lookup.TakesPlace readings outcome
  /-- To run the lookup on its own is one of its ways. -/
  admits (session : Session) : let exchange := Dialogue.run (node past) lookup session.caches
    course session exchange.value (session.after exchange)

namespace Course

variable {course : Course α} {lookup : Lookup α} {past : List Reading}

/-- Nothing is left to schedule of a value. -/
theorem schedules_pure (value : α) : (pure value : Course α).Schedules node past (pure value) where
  takesPlace := by
    rintro session after outcome only ⟨rfl, rfl⟩
    exact ⟨only, [], List.forall_mem_nil _, Lookup.takesPlace_pure_iff.2 ⟨rfl, rfl⟩⟩
  admits session := ⟨rfl, session.after_done (node past) (Except.ok value)⟩

/-- Two lookups in a row are scheduled by their courses in a row. -/
theorem Schedules.bind {next : α → Course β} {continuation : α → Lookup β}
    (first : course.Schedules node past lookup)
    (second : ∀ value, (next value).Schedules node past (continuation value)) :
    (course >>= next).Schedules node past (lookup >>= continuation) where
  takesPlace := by
    rintro session after outcome only (⟨error, rfl, fails⟩ | ⟨value, middle, goes, goesOn⟩)
    · obtain ⟨onlyAfter, readings, areReplies, conversation⟩ := first.takesPlace only fails
      exact ⟨onlyAfter, readings, areReplies,
        Lookup.takesPlace_bind_iff.2 (.inl ⟨error, rfl, conversation⟩)⟩
    · obtain ⟨onlyMiddle, earlier, areReplies, conversation⟩ := first.takesPlace only goes
      obtain ⟨onlyAfter, later, areRepliesToo, conversationToo⟩ :=
        (second value).takesPlace onlyMiddle goesOn
      exact ⟨onlyAfter, earlier ++ later, List.forall_mem_append.2 ⟨areReplies, areRepliesToo⟩,
        Lookup.takesPlace_bind_iff.2
          (.inr ⟨earlier, later, value, rfl, conversation, conversationToo⟩)⟩
  admits session := by
    intro exchange
    have inTwo : exchange = _ :=
      Dialogue.run_bind (node past) lookup (ExceptT.bindCont continuation) session.caches
    rw [inTwo, Session.after_append]
    have goes := first.admits session
    generalize Dialogue.run (node past) lookup session.caches = exchange at goes ⊢
    obtain ⟨outcome, caches, sent, notes⟩ := exchange
    cases outcome with
    | ok value => exact .inr ⟨value, _, goes, (second value).admits _⟩
    | error error =>
        refine .inl ⟨error, rfl, ?_⟩
        have unchanged (session : Session) :=
          session.after_done (node past) (Except.error error : Except LookupError β)
        exact (unchanged _).symm ▸ goes

/-- A lookup is scheduled by one worker. -/
theorem schedules_course (lookup : Lookup α) :
    (lookup.course node).Schedules node past lookup where
  takesPlace := by
    intro session after outcome only goes
    obtain ⟨onlyAfter, took⟩ := Pool.WorksOff.takesPlace goes only
    cases took with
    | cons conversation _ => exact ⟨onlyAfter, conversation⟩
  admits session := Pool.worksOff_cons past Nat.zero_lt_one [] lookup [] session

/-- A lookup is scheduled by running it while the node stays the same. -/
theorem schedules_courseAt (lookup : Lookup α) :
    (lookup.courseAt (node past)).Schedules node past lookup where
  takesPlace := by
    rintro session after outcome only ⟨rfl, rfl⟩
    have schedules : (lookup.course node).Schedules node past lookup := schedules_course lookup
    exact schedules.takesPlace only (schedules.admits session)
  admits session := ⟨rfl, rfl⟩

end Course

end TokenLens
