import Mathlib.Algebra.GroupWithZero.Nat
import Mathlib.Data.Set.List
import TokenLens.Proofs.Node.Caching
import TokenLens.Proofs.Steps

/-!
# Dialogues side by side

Several dialogues are worked on at once, by a limited number of workers, against one node and with
one set of caches. What one of them remembers, the others find. A worker takes up the dialogues in
their order, but nothing else about the order is fixed: each consultation of a cache, each request
and each reply is a move of its own, and any dialogue that is at work may be the next to move.

Before a node whose replies are a function of the query the order does not matter: every schedule
is finite (`Pool.Runs.keeps`), none gets stuck (`Pool.finished_or_moves`), and each dialogue ends in
its value under the replies of the node (`Pool.Runs.finished_eq`). The invariant is that the caches
reflect the node; with it no move changes what any of the dialogues is bound to end in.
-/

namespace TokenLens

variable {α : Type}

/-- Where a dialogue stands that is worked on: in the queue, taken up by a worker, waiting for the
reply to a request, or at its end. -/
inductive Job (α : Type) where
  | queued (dialogue : Dialogue α)
  | active (dialogue : Dialogue α)
  | waiting (query : Query) (next : Except ReadFault Json → Dialogue α)
  | finished (value : α)

namespace Job

/-- Whether a job is still in the queue. -/
def isQueued : Job α → Bool
  | queued _ => true
  | _ => false

/-- Whether a job occupies a worker. -/
def isBusy : Job α → Bool
  | active _ => true
  | waiting _ _ => true
  | _ => false

end Job

/-- The caches after the result of a request arrived. An answer to the same query that arrived in
the meantime is left where it is. -/
def Caches.receive (query : Query) (result : Except ReadFault Json) (caches : Caches) : Caches :=
  match result with
  | .ok answer =>
      if (caches.consult query).isSome then caches else caches.remember query answer
  | .error _ => caches

/-- A job at work moves without a request, with the caches before and after the move. -/
inductive Job.Moves (node : Query → PostOutcome) : Job α → Caches → Job α → Caches → Prop where
  | note {noted : Note} {next : Dialogue α} {caches : Caches} :
      Moves node (.active (.note noted next)) caches (.active next) caches
  | hit {query : Query} {next : Except ReadFault Json → Dialogue α} {caches after : Caches}
      {answer : Json} (known : caches.consult query = some (answer, after)) :
      Moves node (.active (.ask query next)) caches (.active (next (.ok answer))) after
  | reply {query : Query} {next : Except ReadFault Json → Dialogue α} {caches : Caches} :
      Moves node (.waiting query next) caches (.active (next (node query).result))
        (caches.receive query (node query).result)
  | finish {value : α} {caches : Caches} :
      Moves node (.active (.done value)) caches (.finished value) caches

/-- Jobs in their order, the caches that they share, and the requests that were sent for them. -/
structure Pool (α : Type) where
  jobs : List (Job α)
  caches : Caches
  sent : List Query

namespace Pool

/-- Dialogues that nobody has taken up yet. -/
def start (dialogues : List (Dialogue α)) (caches : Caches) : Pool α :=
  ⟨dialogues.map .queued, caches, []⟩

/-- The number of workers at work on a number of jobs when so many are asked for. -/
def size (workers : Int) (jobs : Nat) : Nat :=
  (max 1 (min workers jobs)).toNat

/-- There is always a worker. -/
theorem size_pos (workers : Int) (jobs : Nat) : 0 < size workers jobs := by
  unfold size
  omega

/-- A pool moves: a free worker takes up the first job in the queue, a job at work sends a request
that no cache can spare, or it moves in another way. -/
inductive Moves (node : Query → PostOutcome) (workers : Nat) : Pool α → Pool α → Prop where
  | takeUp {before after : List (Job α)} {dialogue : Dialogue α} {caches : Caches}
      {sent : List Query} (isFirst : ∀ job ∈ before, job.isQueued = false)
      (isFree : (before ++ .queued dialogue :: after).countP Job.isBusy < workers) :
      Moves node workers ⟨before ++ .queued dialogue :: after, caches, sent⟩
        ⟨before ++ .active dialogue :: after, caches, sent⟩
  | send {before after : List (Job α)} {query : Query} {next : Except ReadFault Json → Dialogue α}
      {caches : Caches} {sent : List Query} (unknown : caches.consult query = none) :
      Moves node workers ⟨before ++ .active (.ask query next) :: after, caches, sent⟩
        ⟨before ++ .waiting query next :: after, caches, sent ++ [query]⟩
  | work {before after : List (Job α)} {job moved : Job α} {caches changed : Caches}
      {sent : List Query} (moves : job.Moves node caches moved changed) :
      Moves node workers ⟨before ++ job :: after, caches, sent⟩
        ⟨before ++ moved :: after, changed, sent⟩

/-- A pool runs for a number of moves. -/
abbrev Runs (node : Query → PostOutcome) (workers : Nat) : Pool α → Nat → Pool α → Prop :=
  Steps (Moves node workers)

/-- A pool is at its end: each dialogue has ended in a value. -/
def IsFinished (pool : Pool α) : Prop :=
  ∃ values : List α, pool.jobs = values.map .finished

end Pool

/-! ## What no move changes -/

section Fate

variable (answers : Query → Except ReadFault Json)

/-- What a job is bound to end in under the given answers. -/
def Job.fate : Job α → α
  | .queued dialogue => dialogue.evaluate answers
  | .active dialogue => dialogue.evaluate answers
  | .waiting query next => (next (answers query)).evaluate answers
  | .finished value => value

/-- The number of moves that a dialogue takes at most: two for a query, one for anything else. -/
def Dialogue.length : Dialogue α → Nat
  | .done _ => 1
  | .ask query next => (next (answers query)).length + 2
  | .note _ next => next.length + 1

/-- A dialogue that starts with an attempt at a query takes two moves more than what follows. -/
theorem Dialogue.length_attempt_bind (query : Query)
    (continuation : Except ReadFault Json → Dialogue α) :
    (Lookup.attempt query >>= continuation).length answers =
      (continuation (answers query)).length answers + 2 :=
  rfl

/-- The number of moves that are left to a job at most. -/
def Job.remaining : Job α → Nat
  | .queued dialogue => dialogue.length answers + 1
  | .active dialogue => dialogue.length answers
  | .waiting query next => (next (answers query)).length answers + 1
  | .finished _ => 0

/-- What the jobs of a pool are bound to end in. -/
def Pool.fates (pool : Pool α) : List α :=
  pool.jobs.map (Job.fate answers)

/-- The number of moves that are left to a pool at most. -/
def Pool.remaining (pool : Pool α) : Nat :=
  (pool.jobs.map (Job.remaining answers)).sum

end Fate

/-- Caches go on reflecting an assignment when a result of it arrives. -/
theorem Caches.Reflects.receive {answers : Query → Except ReadFault Json} {caches : Caches}
    (reflects : caches.Reflects answers) (query : Query) :
    (caches.receive query (answers query)).Reflects answers := by
  unfold Caches.receive
  split
  next answer isAnswer =>
    split
    · exact reflects
    · exact reflects.remember isAnswer
  next => exact reflects

variable {node : Query → PostOutcome} {workers : Nat}

/-- A move of a job leaves caches that reflect the node, brings the job nearer to its end, and does
not change that end. -/
theorem Job.Moves.keeps {job moved : Job α} {caches changed : Caches}
    (moves : job.Moves node caches moved changed)
    (reflects : caches.Reflects fun query => (node query).result) :
    (changed.Reflects fun query => (node query).result) ∧
      moved.fate (fun query => (node query).result) =
        job.fate (fun query => (node query).result) ∧
      moved.remaining (fun query => (node query).result) <
        job.remaining (fun query => (node query).result) := by
  cases moves with
  | note => exact ⟨reflects, rfl, Nat.lt_succ_self _⟩
  | hit known =>
      obtain ⟨isAnswer, afterReflects⟩ := reflects.consult known
      refine ⟨afterReflects, ?_, ?_⟩
      · simp only [fate, Dialogue.evaluate, isAnswer]
      · simp only [remaining, Dialogue.length, isAnswer]
        omega
  | reply => exact ⟨reflects.receive _, rfl, Nat.lt_succ_self _⟩
  | finish => exact ⟨reflects, rfl, Nat.zero_lt_one⟩

namespace Pool

/-- A move of a pool leaves caches that reflect the node, brings the pool nearer to its end, and
does not change what its jobs are bound to end in. -/
theorem Moves.keeps {pool next : Pool α} (move : pool.Moves node workers next)
    (reflects : pool.caches.Reflects fun query => (node query).result) :
    (next.caches.Reflects fun query => (node query).result) ∧
      next.fates (fun query => (node query).result) =
        pool.fates (fun query => (node query).result) ∧
      next.remaining (fun query => (node query).result) <
        pool.remaining (fun query => (node query).result) := by
  cases move with
  | takeUp isFirst isFree =>
      refine ⟨reflects, ?_, ?_⟩
      · simp [fates, Job.fate]
      · simp [remaining, Job.remaining]
  | send unknown =>
      refine ⟨reflects, ?_, ?_⟩
      · simp [fates, Job.fate, Dialogue.evaluate]
      · simp [remaining, Job.remaining, Dialogue.length]
  | work moves =>
      obtain ⟨keeps, sameFate, nearer⟩ := moves.keeps reflects
      refine ⟨keeps, ?_, ?_⟩
      · simp [fates, sameFate]
      · simpa [remaining] using nearer

/-- A run leaves caches that reflect the node, takes no more moves than there were, and does not
change what the jobs are bound to end in. -/
theorem Runs.keeps {first pool : Pool α} {moves : Nat} (runs : first.Runs node workers moves pool)
    (reflects : first.caches.Reflects fun query => (node query).result) :
    (pool.caches.Reflects fun query => (node query).result) ∧
      pool.fates (fun query => (node query).result) =
        first.fates (fun query => (node query).result) ∧
      moves + pool.remaining (fun query => (node query).result) ≤
        first.remaining (fun query => (node query).result) := by
  induction runs with
  | refl => exact ⟨reflects, rfl, by omega⟩
  | step _ move inductionHypothesis =>
      obtain ⟨reflectsHere, sameFates, bounded⟩ := inductionHypothesis
      obtain ⟨keeps, sameFate, nearer⟩ := move.keeps reflectsHere
      exact ⟨keeps, sameFate.trans sameFates, by omega⟩

/-- Dialogues that nobody has taken up are bound to end in their values. -/
theorem fates_start (answers : Query → Except ReadFault Json) (dialogues : List (Dialogue α))
    (caches : Caches) :
    (start dialogues caches).fates answers = dialogues.map (Dialogue.evaluate answers) := by
  rw [fates, start, List.map_map]
  rfl

/-- What jobs that are at their end were bound to end in. -/
theorem fates_of_finished {answers : Query → Except ReadFault Json} {pool : Pool α}
    {values : List α} (finished : pool.jobs = values.map .finished) :
    pool.fates answers = values := by
  rw [fates, finished, List.map_map]
  exact List.map_id values

/-- What a job that is at its end was bound to end in. -/
theorem getElem?_fates {answers : Query → Except ReadFault Json} {pool : Pool α} {place : Nat}
    {value : α} (finished : pool.jobs[place]? = some (.finished value)) :
    (pool.fates answers)[place]? = some value := by
  rw [fates, List.getElem?_map, finished]
  rfl

/-- Whatever the schedule, each dialogue ends in its value under the replies of the node. -/
theorem Runs.finished_eq {dialogues : List (Dialogue α)} {caches : Caches} {pool : Pool α}
    {moves : Nat} {values : List α} (runs : (start dialogues caches).Runs node workers moves pool)
    (reflects : caches.Reflects fun query => (node query).result)
    (finished : pool.jobs = values.map .finished) :
    values = dialogues.map (Dialogue.evaluate fun query => (node query).result) := by
  rw [← fates_of_finished finished, (runs.keeps reflects).2.1, fates_start]

end Pool

/-! ## No pool gets stuck -/

/-- A pool with a job that occupies a worker can move. -/
theorem Pool.exists_moves {job : Job α} (isBusy : job.isBusy = true) (before after : List (Job α))
    (caches : Caches) (sent : List Query) :
    ∃ next, Moves node workers ⟨before ++ job :: after, caches, sent⟩ next := by
  cases job with
  | queued dialogue => cases isBusy
  | active dialogue =>
      cases dialogue with
      | done value => exact ⟨_, .work .finish⟩
      | ask query next =>
          cases consulted : caches.consult query with
          | none => exact ⟨_, .send consulted⟩
          | some entry => exact ⟨_, .work (.hit consulted)⟩
      | note noted next => exact ⟨_, .work .note⟩
  | waiting query next => exact ⟨_, .work .reply⟩
  | finished value => cases isBusy

/-- A job that is neither at work nor in the queue is at its end. -/
theorem Job.exists_eq_finished {job : Job α} (notBusy : job.isBusy = false)
    (notQueued : job.isQueued = false) : ∃ value, job = .finished value := by
  cases job with
  | queued dialogue => cases notQueued
  | active dialogue => cases notBusy
  | waiting query next => cases notBusy
  | finished value => exact ⟨value, rfl⟩

/-- A pool with a worker is at its end or can move. -/
theorem Pool.finished_or_moves (someWorker : 0 < workers) (pool : Pool α) :
    pool.IsFinished ∨ ∃ next, pool.Moves node workers next := by
  obtain ⟨jobs, caches, sent⟩ := pool
  -- A busy job can always move by itself. If none is busy, every worker is free for the queue.
  by_cases atWork : ∃ job ∈ jobs, job.isBusy = true
  · obtain ⟨job, isJob, isBusy⟩ := atWork
    obtain ⟨before, after, rfl⟩ := List.append_of_mem isJob
    exact .inr (exists_moves isBusy before after caches sent)
  have idle : ∀ job ∈ jobs, job.isBusy = false := by
    simpa using atWork
  cases queued : jobs.find? Job.isQueued with
  | some job =>
      obtain ⟨isQueued, before, after, rfl, notQueued⟩ := List.find?_eq_some_iff_append.1 queued
      have noneBusy : (before ++ job :: after).countP Job.isBusy = 0 :=
        List.countP_eq_zero.2 fun other isOther => by simp [idle other isOther]
      cases job with
      | queued dialogue =>
          refine .inr ⟨_, .takeUp (by simpa using notQueued) ?_⟩
          rwa [noneBusy]
      | active dialogue => cases isQueued
      | waiting query next => cases isQueued
      | finished value => cases isQueued
  | none =>
      have notQueued : ∀ job ∈ jobs, job.isQueued = false := by simpa using queued
      have areFinished : jobs ∈ Set.range (List.map Job.finished) := by
        rw [Set.range_list_map]
        intro job isJob
        obtain ⟨value, rfl⟩ := Job.exists_eq_finished (idle job isJob) (notQueued job isJob)
        exact ⟨value, rfl⟩
      obtain ⟨values, same⟩ := areFinished
      exact .inl ⟨values, same.symm⟩

/-- Dialogues of bounded length have a bounded number of moves left while they are in the queue. -/
theorem Pool.remaining_start_le {answers : Query → Except ReadFault Json}
    {dialogues : List (Dialogue α)} {bound : Nat}
    (short : ∀ dialogue ∈ dialogues, dialogue.length answers ≤ bound) (caches : Caches) :
    (start dialogues caches).remaining answers ≤ dialogues.length * (bound + 1) := by
  induction dialogues with
  | nil => exact Nat.zero_le _
  | cons dialogue rest inductionHypothesis =>
      obtain ⟨here, later⟩ := List.forall_mem_cons.1 short
      have others := inductionHypothesis later
      simp only [remaining, start, List.map_cons, List.sum_cons, Job.remaining,
        List.length_cons, Nat.succ_mul] at others ⊢
      omega

/-- Whatever the schedule, dialogues of bounded length are worked off before a node whose replies
are a function of the query. -/
theorem Pool.endsWithin {dialogues : List (Dialogue α)} {caches : Caches} {bound : Nat}
    (someWorker : 0 < workers) (reflects : caches.Reflects fun query => (node query).result)
    (short : ∀ dialogue ∈ dialogues, dialogue.length (fun query => (node query).result) ≤ bound) :
    EndsWithin (Moves node workers) IsFinished (dialogues.length * (bound + 1))
      (start dialogues caches) := by
  intro count pool runs
  have bounded := (Runs.keeps runs reflects).2.2
  have available := remaining_start_le short caches
  exact ⟨by omega, pool.finished_or_moves someWorker⟩

/-! ## One after the other -/

/-- A dialogue that is run alone and asks what no cache knows goes on with the caches after the
result of its request arrived. -/
theorem Dialogue.run_ask_of_unknown {query : Query} {next : Except ReadFault Json → Dialogue α}
    {caches : Caches} (unknown : caches.consult query = none) :
    (Dialogue.ask query next).run node caches =
      let exchange := (next (node query).result).run node
        (caches.receive query (node query).result)
      { exchange with sent := query :: exchange.sent } := by
  rw [run, unknown]
  cases result : (node query).result with
  | ok answer => simp [Caches.receive, unknown]
  | error fault => rfl

namespace Pool

variable (node workers)

/-- While all others rest, a dialogue that was taken up comes to its end as if it were run alone. -/
theorem runs_active (dialogue : Dialogue α) (before after : List (Job α)) (caches : Caches)
    (sent : List Query) :
    let exchange := dialogue.run node caches
    ∃ moves, Runs node workers ⟨before ++ .active dialogue :: after, caches, sent⟩ moves
      ⟨before ++ .finished exchange.value :: after, exchange.caches, sent ++ exchange.sent⟩ := by
  induction dialogue generalizing caches sent with
  | done value =>
      simp only [Dialogue.run, List.append_nil]
      exact ⟨1, Steps.single (.work .finish)⟩
  | ask query next inductionHypothesis =>
      cases consulted : caches.consult query with
      | some entry =>
          obtain ⟨moves, runs⟩ := inductionHypothesis (.ok entry.1) entry.2 sent
          rw [Dialogue.run, consulted]
          exact ⟨1 + moves, (Steps.single (.work (.hit consulted))).trans runs⟩
      | none =>
          obtain ⟨moves, runs⟩ := inductionHypothesis (node query).result
            (caches.receive query (node query).result) (sent ++ [query])
          rw [List.append_assoc] at runs
          rw [Dialogue.run_ask_of_unknown consulted]
          exact ⟨2 + moves, ((Steps.single (.send consulted)).step (.work .reply)).trans runs⟩
  | note noted next inductionHypothesis =>
      obtain ⟨moves, runs⟩ := inductionHypothesis caches sent
      exact ⟨1 + moves, (Steps.single (.work .note)).trans runs⟩

/-- While all others rest, the first dialogue in the queue comes to its end. -/
theorem runs_first {workers : Nat} (someWorker : 0 < workers) (values : List α)
    (dialogue : Dialogue α) (rest : List (Dialogue α)) (caches : Caches) (sent : List Query) :
    let exchange := dialogue.run node caches
    ∃ moves, Runs node workers
      ⟨values.map .finished ++ (dialogue :: rest).map .queued, caches, sent⟩ moves
      ⟨(values ++ [exchange.value]).map .finished ++ rest.map .queued, exchange.caches,
        sent ++ exchange.sent⟩ := by
  intro exchange
  have takesUp : Moves node workers
      ⟨values.map .finished ++ .queued dialogue :: rest.map .queued, caches, sent⟩
      ⟨values.map .finished ++ .active dialogue :: rest.map .queued, caches, sent⟩ := by
    refine .takeUp (by simp [Job.isQueued]) ?_
    have noneBusy : (values.map Job.finished ++ Job.queued dialogue ::
        rest.map Job.queued).countP Job.isBusy = 0 := by
      simp [List.countP_append, List.countP_map, Job.isBusy]
    rwa [noneBusy]
  obtain ⟨moves, runs⟩ := runs_active node workers dialogue (values.map .finished)
    (rest.map .queued) caches sent
  refine ⟨1 + moves, ?_⟩
  rw [List.map_append, List.append_assoc]
  exact (Steps.single takesUp).trans runs

/-- A pool with a worker can come to its end. -/
theorem exists_finished {workers : Nat} (someWorker : 0 < workers) (dialogues : List (Dialogue α))
    (caches : Caches) : ∃ (moves : Nat) (values : List α) (pool : Pool α),
      (start dialogues caches).Runs node workers moves pool ∧ pool.jobs = values.map .finished := by
  suffices onwards : ∀ (values : List α) (caches : Caches) (sent : List Query),
      ∃ (moves : Nat) (results : List α) (pool : Pool α), Runs node workers
        ⟨values.map .finished ++ dialogues.map .queued, caches, sent⟩ moves pool ∧
          pool.jobs = results.map .finished from onwards [] caches []
  -- Induction on the queue: what is at its end already stands before it as `values`.
  induction dialogues with
  | nil =>
      intro values caches sent
      exact ⟨0, values, _, .refl _, List.append_nil _⟩
  | cons dialogue rest inductionHypothesis =>
      intro values caches sent
      obtain ⟨earlier, first⟩ := runs_first node someWorker values dialogue rest caches sent
      obtain ⟨later, results, pool, runs, finished⟩ := inductionHypothesis _ _ _
      exact ⟨earlier + later, results, pool, first.trans runs, finished⟩

end Pool

end TokenLens
