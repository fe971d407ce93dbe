import TokenLens.Proofs.Node.Course

/-!
# What is sent

A request is sent for a reading, and for each reading at most one: caches spare some, and nothing
else in a session sends any. Where dialogues are worked off side by side, their requests come in
any order, so what was sent is found among what was read up to the order
(`Pool.WorksOff.sent_subperm`). A course accounts for its requests if it ends as some conversation
of a lookup does whose readings cover all that was sent (`Course.Accounts`). Courses that do are put
together like lookups, so a bound on what is read is one on what is sent.
-/

namespace TokenLens

variable {α β : Type} {node : List Reading → Query → PostOutcome} {workers : Nat}

/-- The queries of readings, in order. -/
def queriesOf (readings : List Reading) : List Query :=
  readings.map (·.query)

/-- The queries of two parts of a conversation. -/
@[simp]
theorem queriesOf_append (earlier later : List Reading) :
    queriesOf (earlier ++ later) = queriesOf earlier ++ queriesOf later :=
  List.map_append

/-- A job may read what is given here before it ends in a value. The request that a job waits for
was sent already, so its reading is not one of them. -/
inductive Job.Reads : Job α → List Reading → α → Prop where
  | queued {dialogue : Dialogue α} {readings : List Reading} {value : α}
      (conversation : dialogue.TakesPlace readings value) :
      Reads (.queued dialogue) readings value
  | active {dialogue : Dialogue α} {readings : List Reading} {value : α}
      (conversation : dialogue.TakesPlace readings value) :
      Reads (.active dialogue) readings value
  | waiting {query : Query} {next : Except ReadFault Json → Dialogue α}
      {answer : Except ReadFault Json} {readings : List Reading} {value : α}
      (conversation : (next answer).TakesPlace readings value) :
      Reads (.waiting query next) readings value
  | finished (value : α) : Reads (.finished value) [] value

/-- Jobs may read what is given here before they end in values, each of them its own part. -/
inductive Job.ReadAll : List (Job α) → List Reading → List α → Prop where
  | nil : ReadAll [] [] []
  | cons {job : Job α} {jobs : List (Job α)} {earlier later : List Reading} {value : α}
      {values : List α} (first : job.Reads earlier value) (rest : ReadAll jobs later values) :
      ReadAll (job :: jobs) (earlier ++ later) (value :: values)

namespace Job

/-- Jobs that are at their end read nothing more. -/
theorem readAll_finished (values : List α) : ReadAll (values.map .finished) [] values := by
  induction values with
  | nil => exact .nil
  | cons value values inductionHypothesis => exact .cons (.finished value) inductionHypothesis

/-- A dialogue that is the only job takes place with what is read. -/
theorem ReadAll.takesPlace {dialogue : Dialogue α} {readings : List Reading} {value : α}
    (readAll : ReadAll [.queued dialogue] readings [value]) :
    dialogue.TakesPlace readings value := by
  cases readAll with
  | cons first rest =>
      cases rest
      cases first with
      | queued conversation => rwa [List.append_nil]

/-- If one job is replaced by another that makes up for what is sent, so do the jobs. -/
theorem ReadAll.replace {job moved : Job α} {sent : List Query}
    (makesUp : ∀ {readings : List Reading} {value : α}, moved.Reads readings value →
      ∃ more, job.Reads more value ∧ (sent ++ queriesOf readings).Subperm (queriesOf more))
    {before after : List (Job α)} {readings : List Reading} {values : List α}
    (readAll : ReadAll (before ++ moved :: after) readings values) :
    ∃ more, ReadAll (before ++ job :: after) more values ∧
      (sent ++ queriesOf readings).Subperm (queriesOf more) := by
  induction before generalizing readings values with
  | nil =>
      cases readAll with
      | @cons _ _ earlier later _ _ first rest =>
          obtain ⟨more, reads, covered⟩ := makesUp first
          refine ⟨more ++ later, .cons reads rest, ?_⟩
          rw [queriesOf_append, queriesOf_append, ← List.append_assoc]
          exact (List.subperm_append_right _).2 covered
  | cons other before inductionHypothesis =>
      cases readAll with
      | @cons _ _ earlier later _ _ first rest =>
          obtain ⟨more, reads, covered⟩ := inductionHypothesis rest
          refine ⟨earlier ++ more, .cons first reads, ?_⟩
          -- What is sent now stands before what jobs in front of this one read: hence no prefix.
          rw [queriesOf_append, queriesOf_append]
          have moved : (sent ++ (queriesOf earlier ++ queriesOf later)).Perm
              (queriesOf earlier ++ (sent ++ queriesOf later)) := List.perm_append_comm_assoc ..
          exact moved.subperm.trans ((List.subperm_append_left _).2 covered)

/-- What a job may read after a move without a request, it may read before. -/
theorem Moves.makesUp {replies : Query → PostOutcome} {job moved : Job α}
    {caches changed : Caches} (moves : job.Moves replies caches moved changed)
    {readings : List Reading} {value : α} (reads : moved.Reads readings value) :
    ∃ more, job.Reads more value ∧ ([] ++ queriesOf readings).Subperm (queriesOf more) := by
  cases moves with
  | note =>
      cases reads with
      | active conversation => exact ⟨readings, .active (.note conversation), .refl _⟩
  | @hit query _ _ _ answer =>
      cases reads with
      | active conversation =>
          exact ⟨_, .active (.ask conversation), (List.sublist_cons_self query _).subperm⟩
  | reply =>
      cases reads with
      | active conversation => exact ⟨readings, .waiting conversation, .refl _⟩
  | finish =>
      cases reads with
      | finished => exact ⟨[], .active (.done value), .refl _⟩

end Job

namespace Pool

/-- What was sent before a move and in it, together with what is read after it, is covered by what
was sent and may be read before it. -/
theorem MovesChanging.covers {pool next : Pool α} (moves : pool.MovesChanging node workers next)
    {readings : List Reading} {values : List α} (readAll : Job.ReadAll next.jobs readings values) :
    ∃ more, Job.ReadAll pool.jobs more values ∧
      (next.sent ++ queriesOf readings).Subperm (pool.sent ++ queriesOf more) := by
  obtain ⟨past, move⟩ := moves
  cases move with
  | takeUp =>
      have makesUp {dialogue : Dialogue α} {readings : List Reading} {value : α}
          (reads : (Job.active dialogue).Reads readings value) :
          ∃ more, (Job.queued dialogue).Reads more value ∧
            ([] ++ queriesOf readings).Subperm (queriesOf more) := by
        cases reads with
        | active conversation => exact ⟨readings, .queued conversation, .refl _⟩
      obtain ⟨more, reads, covered⟩ := readAll.replace makesUp
      exact ⟨more, reads, (List.subperm_append_left _).2 covered⟩
  | send =>
      have makesUp {query : Query} {next : Except ReadFault Json → Dialogue α}
          {readings : List Reading} {value : α}
          (reads : (Job.waiting query next).Reads readings value) :
          ∃ more, (Job.active (.ask query next)).Reads more value ∧
            ([query] ++ queriesOf readings).Subperm (queriesOf more) := by
        cases reads with
        | @waiting _ _ answer _ _ conversation =>
            exact ⟨⟨query, answer⟩ :: readings, .active (.ask conversation), .refl _⟩
      obtain ⟨more, reads, covered⟩ := readAll.replace makesUp
      rw [List.append_assoc]
      exact ⟨more, reads, (List.subperm_append_left _).2 covered⟩
  | work moves =>
      obtain ⟨more, reads, covered⟩ := readAll.replace moves.makesUp
      exact ⟨more, reads, (List.subperm_append_left _).2 covered⟩

/-- What was sent in steps of a pool, together with what is read after them, is covered by what was
sent and may be read before them. -/
theorem covers_of_steps {first last : Pool α} {count : Nat}
    (steps : Steps (MovesChanging node workers) first count last) {readings : List Reading}
    {values : List α} (readAll : Job.ReadAll last.jobs readings values) :
    ∃ more, Job.ReadAll first.jobs more values ∧
      (last.sent ++ queriesOf readings).Subperm (first.sent ++ queriesOf more) := by
  induction steps generalizing readings with
  | refl => exact ⟨readings, readAll, .refl _⟩
  | step _ moves inductionHypothesis =>
      obtain ⟨between, readBetween, coveredLast⟩ := moves.covers readAll
      obtain ⟨more, readFirst, covered⟩ := inductionHypothesis readBetween
      exact ⟨more, readFirst, coveredLast.trans covered⟩

/-- Dialogues that were worked off took place, and their readings cover all that was sent. -/
theorem WorksOff.sent_subperm {dialogues : List (Dialogue α)} {session after : Session}
    {values : List α} (worksOff : WorksOff node workers dialogues session values after) :
    ∃ readings, Job.ReadAll (dialogues.map .queued) readings values ∧
      after.sent.Subperm (session.sent ++ queriesOf readings) := by
  obtain ⟨count, steps⟩ := worksOff
  obtain ⟨readings, readAll, covered⟩ := covers_of_steps steps (Job.readAll_finished values)
  exact ⟨readings, readAll, by simpa [queriesOf] using covered⟩

end Pool

/-- To run a dialogue is to hold a conversation whose readings cover all that is sent. -/
theorem Dialogue.sent_subperm_run (replies : Query → PostOutcome) (dialogue : Dialogue α)
    (caches : Caches) :
    let exchange := dialogue.run replies caches
    ∃ readings, dialogue.TakesPlace readings exchange.value ∧
      exchange.sent.Subperm (queriesOf readings) := by
  intro exchange
  have worksOff : Pool.WorksOff (fun _ => replies) 1 [dialogue] ⟨caches, []⟩ [exchange.value]
      ⟨exchange.caches, exchange.sent⟩ :=
    Pool.worksOff_cons [] Nat.zero_lt_one [] dialogue [] ⟨caches, []⟩
  obtain ⟨readings, readAll, covered⟩ := worksOff.sent_subperm
  exact ⟨readings, readAll.takesPlace, covered⟩

/-- A course that accounts for its requests: it ends as some conversation of a lookup does, and the
readings of that conversation cover all that was sent. -/
structure Course.Accounts (course : Course α) (lookup : Lookup α) : Prop where
  covers {session after : Session} {outcome : Except LookupError α}
    (goes : course session outcome after) : ∃ readings, lookup.TakesPlace readings outcome ∧
      after.sent.Subperm (session.sent ++ queriesOf readings)

namespace Course

variable {course : Course α} {lookup : Lookup α}

/-- A value is no cause for a request. -/
theorem accounts_pure (value : α) : (pure value : Course α).Accounts (pure value) where
  covers := by
    rintro session after outcome ⟨rfl, rfl⟩
    refine ⟨[], Lookup.takesPlace_pure_iff.2 ⟨rfl, rfl⟩, ?_⟩
    exact (List.sublist_append_left _ _).subperm

/-- Two courses in a row account for their requests if each of them does. -/
theorem Accounts.bind {next : α → Course β} {continuation : α → Lookup β}
    (first : course.Accounts lookup)
    (second : ∀ value, (next value).Accounts (continuation value)) :
    (course >>= next).Accounts (lookup >>= continuation) where
  covers := by
    rintro session after outcome (⟨error, rfl, fails⟩ | ⟨value, middle, goes, goesOn⟩)
    · obtain ⟨readings, conversation, covered⟩ := first.covers fails
      exact ⟨readings, Lookup.takesPlace_bind_iff.2 (.inl ⟨error, rfl, conversation⟩), covered⟩
    · obtain ⟨earlier, conversation, covered⟩ := first.covers goes
      obtain ⟨later, conversationToo, coveredToo⟩ := (second value).covers goesOn
      refine ⟨earlier ++ later, Lookup.takesPlace_bind_iff.2
        (.inr ⟨earlier, later, value, rfl, conversation, conversationToo⟩), ?_⟩
      rw [queriesOf_append, ← List.append_assoc]
      exact coveredToo.trans ((List.subperm_append_right _).2 covered)

/-- A lookup that one worker works on accounts for its requests. -/
theorem accounts_course (lookup : Lookup α) : (lookup.course node).Accounts lookup where
  covers goes := by
    obtain ⟨readings, readAll, covered⟩ := Pool.WorksOff.sent_subperm goes
    exact ⟨readings, readAll.takesPlace, covered⟩

/-- A lookup that is run while the node stays the same accounts for its requests. -/
theorem accounts_courseAt (past : List Reading) (lookup : Lookup α) :
    (lookup.courseAt (node past)).Accounts lookup where
  covers := by
    rintro session after outcome ⟨rfl, rfl⟩
    have schedules : (lookup.course node).Schedules node past lookup := schedules_course lookup
    exact (accounts_course lookup).covers (schedules.admits session)

end Course

end TokenLens
