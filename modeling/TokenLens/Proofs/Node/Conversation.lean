import TokenLens.Node.Session

/-!
# Conversations

What can come of a dialogue whatever a node answers. `Dialogue.TakesPlace` relates a dialogue to the
readings of one conversation, in order, and to the value in which that conversation ends; it
constrains no answer. A node with caches, a node that changes its mind and a node that is a function
of the query all hold conversations in this sense: `takesPlace_converse` and `takesPlace_run` say
so. What is shown of every conversation therefore holds of each of them.
-/

namespace TokenLens

/-- A query together with what came of it. -/
structure Reading where
  query : Query
  answer : Except ReadFault Json

namespace Dialogue

variable {α β : Type}

/-- A dialogue takes place with the given readings and ends in a value. -/
inductive TakesPlace : Dialogue α → List Reading → α → Prop where
  | done (value : α) : TakesPlace (.done value) [] value
  | ask {query : Query} {next : Except ReadFault Json → Dialogue α}
      {answer : Except ReadFault Json} {readings : List Reading} {value : α}
      (rest : TakesPlace (next answer) readings value) :
      TakesPlace (.ask query next) (⟨query, answer⟩ :: readings) value
  | note {noted : Note} {next : Dialogue α} {readings : List Reading} {value : α}
      (rest : TakesPlace next readings value) :
      TakesPlace (.note noted next) readings value

/-- A dialogue that is done leaves no reading. -/
@[simp]
theorem takesPlace_pure_iff {value result : α} {readings : List Reading} :
    (pure value : Dialogue α).TakesPlace readings result ↔ readings = [] ∧ result = value := by
  constructor
  · intro conversation
    cases conversation
    exact ⟨rfl, rfl⟩
  · rintro ⟨rfl, rfl⟩
    exact .done _

/-- A dialogue that goes on takes place in two parts, and the second depends on the value of the
first. -/
theorem takesPlace_bind_iff {dialogue : Dialogue α} {continuation : α → Dialogue β}
    {readings : List Reading} {value : β} :
    (dialogue >>= continuation).TakesPlace readings value ↔
      ∃ earlier later middle, readings = earlier ++ later ∧
        dialogue.TakesPlace earlier middle ∧ (continuation middle).TakesPlace later value := by
  constructor
  · intro whole
    induction dialogue generalizing readings with
    | done middle => exact ⟨[], readings, middle, rfl, .done middle, whole⟩
    | ask query next inductionHypothesis =>
        cases whole with
        | ask rest =>
            obtain ⟨earlier, later, middle, rfl, first, second⟩ := inductionHypothesis _ rest
            exact ⟨_ :: earlier, later, middle, rfl, .ask first, second⟩
    | note noted next inductionHypothesis =>
        cases whole with
        | note rest =>
            obtain ⟨earlier, later, middle, rfl, first, second⟩ := inductionHypothesis rest
            exact ⟨earlier, later, middle, rfl, .note first, second⟩
  · rintro ⟨earlier, later, middle, rfl, first, second⟩
    induction first with
    | done => exact second
    | ask _ inductionHypothesis => exact .ask (inductionHypothesis second)
    | note _ inductionHypothesis => exact .note (inductionHypothesis second)

/-- A dialogue that starts with an attempt at a query goes on with the answer. -/
theorem takesPlace_attempt_bind_iff {query : Query}
    {continuation : Except ReadFault Json → Dialogue β} {readings : List Reading} {value : β} :
    (Lookup.attempt query >>= continuation).TakesPlace readings value ↔
      ∃ answer later, readings = ⟨query, answer⟩ :: later ∧
        (continuation answer).TakesPlace later value := by
  constructor
  · intro conversation
    cases conversation with
    | ask rest => exact ⟨_, _, rfl, rest⟩
  · rintro ⟨answer, later, rfl, rest⟩
    exact .ask rest

/-- Where all answers come from one assignment, a conversation ends in the value under it. -/
theorem TakesPlace.eq_evaluate {dialogue : Dialogue α} {readings : List Reading} {value : α}
    {answers : Query → Except ReadFault Json} (conversation : dialogue.TakesPlace readings value)
    (assigned : ∀ reading ∈ readings, reading.answer = answers reading.query) :
    value = dialogue.evaluate answers := by
  induction conversation with
  | done => rfl
  | ask _ inductionHypothesis =>
      obtain ⟨here, after⟩ := List.forall_mem_cons.1 assigned
      rw [evaluate, ← show _ = answers _ from here]
      exact inductionHypothesis after
  | note _ inductionHypothesis => exact inductionHypothesis assigned

/-! ## Any node at all -/

/-- What comes of a dialogue with a node whose answers may depend on all that was read before. -/
def converse (node : List Reading → Query → Except ReadFault Json) :
    List Reading → Dialogue α → List Reading × α
  | _, .done value => ([], value)
  | past, .ask query next =>
      let reading : Reading := ⟨query, node past query⟩
      let rest := (next reading.answer).converse node (past ++ [reading])
      (reading :: rest.1, rest.2)
  | past, .note _ next => next.converse node past
termination_by structural _ dialogue => dialogue

/-- The dialogue with a node takes place. -/
theorem takesPlace_converse (node : List Reading → Query → Except ReadFault Json)
    (past : List Reading) (dialogue : Dialogue α) :
    dialogue.TakesPlace (dialogue.converse node past).1 (dialogue.converse node past).2 := by
  induction dialogue generalizing past with
  | done value => exact .done value
  | ask query next inductionHypothesis => exact .ask (inductionHypothesis _ _)
  | note noted next inductionHypothesis => exact .note (inductionHypothesis past)

/-- A dialogue that goes on is held in two parts, and the node knows the first part in the second. -/
theorem converse_bind (node : List Reading → Query → Except ReadFault Json) (past : List Reading)
    (dialogue : Dialogue α) (continuation : α → Dialogue β) :
    (dialogue >>= continuation).converse node past =
      let first := dialogue.converse node past
      let second := (continuation first.2).converse node (past ++ first.1)
      (first.1 ++ second.1, second.2) := by
  induction dialogue generalizing past with
  | done value =>
      change (continuation value).converse node past = _
      simp [converse]
  | ask query next inductionHypothesis =>
      change ((next _ >>= continuation).converse node _ |> fun rest => (_ :: rest.1, rest.2)) = _
      simp [converse, inductionHypothesis]
  | note noted next inductionHypothesis => exact inductionHypothesis past

/-- Every answer that was read is one that the node gave to the query. -/
theorem mem_converse {node : List Reading → Query → Except ReadFault Json}
    {past : List Reading} {dialogue : Dialogue α} {reading : Reading}
    (isRead : reading ∈ (dialogue.converse node past).1) :
    ∃ before, reading.answer = node before reading.query := by
  induction dialogue generalizing past with
  | done value => cases isRead
  | ask query next inductionHypothesis =>
      rcases List.mem_cons.1 isRead with rfl | isLater
      · exact ⟨past, rfl⟩
      · exact inductionHypothesis _ isLater
  | note noted next inductionHypothesis => exact inductionHypothesis isRead

end Dialogue

end TokenLens
